import ScriptFront.Pattern.CodeSet

/-!
# Matching

A matcher says which stretches of a text it matches. It is run by asking, character for character,
what is left to match after a character. What is left may depend on where in the text the matcher
stands: an anchor matches no character, but only between certain characters.

`Matcher.occursIn` keeps the list of all that is left to match of the matchers begun so far, without
repetitions.
-/
namespace ScriptFront.Pattern

/-- Conditions on a place in a text. -/
inductive Anchor where
  | textStart | textEnd
  | lineStart | lineEnd
  /-- A carriage return and a line feed also end lines, and together end one. -/
  | anyLineStart | anyLineEnd
  | wordBoundary | noWordBoundary | wordStart | wordEnd | wordStartHalf | wordEndHalf
  /-- A condition on words of letters of all alphabets. -/
  | anyWord
  deriving DecidableEq, Repr

namespace Anchor

/-- Whether there is an ASCII letter, a digit or an underscore. -/
def isWordAt (c : Option Char) : Bool := c.any fun c => c.isAlphanum || c = '_'

/-- Whether the condition holds between two characters, which are missing at the ends of a text. -/
def holds (anchor : Anchor) (before after : Option Char) : Bool :=
  match anchor with
  | textStart => before.isNone
  | textEnd => after.isNone
  | lineStart => before.isNone || before = some '\n'
  | lineEnd => after.isNone || after = some '\n'
  | anyLineStart => before.isNone || before = some '\n' || before = some '\r' && after ≠ some '\n'
  | anyLineEnd => after.isNone || after = some '\r' || after = some '\n' && before ≠ some '\r'
  | wordBoundary => isWordAt before != isWordAt after
  | noWordBoundary => isWordAt before == isWordAt after
  | wordStart => !isWordAt before && isWordAt after
  | wordEnd => isWordAt before && !isWordAt after
  | wordStartHalf => !isWordAt before
  | wordEndHalf => !isWordAt after
  | anyWord => false

end Anchor

inductive Matcher where
  | empty
  | one (codes : CodeSet)
  | look (anchor : Anchor)
  | both (first second : Matcher)
  | either (first second : Matcher)
  /-- At least `least` times, and at most `most` times if that is given. -/
  | repeated (least : Nat) (most : Option Nat) (matcher : Matcher)
  deriving DecidableEq, Repr

namespace Matcher

/-- Whether the matcher matches the empty stretch between two characters. -/
def matchesEmpty (before after : Option Char) : Matcher → Bool
  | empty => true
  | one _ => false
  | look anchor => anchor.holds before after
  | both first second => first.matchesEmpty before after && second.matchesEmpty before after
  | either first second => first.matchesEmpty before after || second.matchesEmpty before after
  | repeated least _ matcher => least == 0 || matcher.matchesEmpty before after

/-- One matcher and then another. -/
def andThen : Matcher → Matcher → Matcher
  | empty, second => second
  | first, second => both first second

/-- What is left to match after a character; one of these has to. -/
def after (before : Option Char) (c : Char) : Matcher → List Matcher
  | empty | look _ => []
  | one codes => if codes.contains c.toNat then [empty] else []
  | both first second =>
    (first.after before c).map (·.andThen second)
      ++ if first.matchesEmpty before (some c) then second.after before c else []
  | either first second => first.after before c ++ second.after before c
  | repeated least most matcher =>
    if most = some 0 then []
    else
      let least := if matcher.matchesEmpty before (some c) then 0 else least - 1
      (matcher.after before c).map (·.andThen (repeated least (most.map (· - 1)) matcher))

/-- Whether one of the matchers left, or the matcher from a later place on, matches in the text. -/
def runs (matcher : Matcher) (before : Option Char) (left : List Matcher) : List Char → Bool
  | [] => left.any (·.matchesEmpty before none)
  | c :: rest =>
    left.any (·.matchesEmpty before (some c))
      || runs matcher (some c) (matcher :: left.flatMap (·.after before c)).eraseDups rest

/-- Whether the matcher matches some stretch of a text. -/
def occursIn (matcher : Matcher) (text : List Char) : Bool := matcher.runs none [matcher] text

/-- Whether a condition on words of all alphabets would have to be decided. -/
def asksForAnyWord : Matcher → Bool
  | empty | one _ => false
  | look anchor => anchor = .anyWord
  | both first second | either first second => first.asksForAnyWord || second.asksForAnyWord
  | repeated _ most matcher => most ≠ some 0 && matcher.asksForAnyWord

/-- Whether only empty stretches are matched. -/
def matchesNoCharacter : Matcher → Bool
  | empty | look _ => true
  | one _ => false
  | both first second | either first second =>
    first.matchesNoCharacter && second.matchesNoCharacter
  | repeated _ most matcher => most = some 0 || matcher.matchesNoCharacter

/-- How many states a machine for the matcher has, about. What matches empty stretches only is not
repeated. -/
def size : Matcher → Nat
  | empty => 1
  | one codes => if codes.isAscii then 1 else 12
  | look _ => 1
  | both first second => first.size + second.size
  | either first second => first.size + second.size + 1
  | repeated least most matcher =>
    if matcher.matchesNoCharacter then matcher.size + 1
    else
      match most with
      | some most => least * matcher.size + (most - least) * (matcher.size + 1)
      | none => max least 1 * matcher.size + 1

end Matcher

end ScriptFront.Pattern
