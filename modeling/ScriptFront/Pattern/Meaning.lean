import ScriptFront.Pattern.Matching
import ScriptFront.Pattern.Reading

/-!
# What patterns match

The tree of a pattern becomes a matcher. Flags change what follows them in their group. Patterns
match texts: where characters are taken as bytes, what could match a part of a character is refused.
Without tables for all alphabets, classes of letters and letter case are known for ASCII only, and
refused elsewhere.
-/
namespace ScriptFront.Pattern

/-- The flags that are set. -/
structure Modes where
  caseless : Bool
  multiline : Bool
  dotAll : Bool
  unicode : Bool
  anyLineEnd : Bool
  deriving DecidableEq, Repr

namespace Modes

def initial : Modes := ⟨false, false, false, true, false⟩

def change (modes : Modes) (changes : FlagChanges) : Modes :=
  changes.foldl
    (fun modes (flag, value) =>
      match flag with
      | .caseless => { modes with caseless := value }
      | .multiline => { modes with multiline := value }
      | .dotAll => { modes with dotAll := value }
      | .unicode => { modes with unicode := value }
      | .anyLineEnd => { modes with anyLineEnd := value }
      | .swapGreed | .spaced => modes)
    modes

/-- The last code that a character may have. -/
def lastCode (modes : Modes) : Nat := if modes.unicode then CodeSet.lastCode else 255

end Modes

abbrev Found := Except PlacedFault

def refuse {α : Type} (cause : FaultCause) (stretch : Stretch) : Found α :=
  .error ⟨cause, stretch, none⟩

namespace CodeSet

/-- The set in both cases, if case does not matter. -/
def folded (modes : Modes) (stretch : Stretch) (set : CodeSet) : Found CodeSet :=
  if !modes.caseless then .ok set
  else if !modes.unicode then .ok set.caseless
  else if set.isEmpty then .ok set
  else refuse .noCaseless stretch

/-- The set or, if `negated`, all other characters. -/
def negatedIf (modes : Modes) (stretch : Stretch) (negated : Bool) (set : CodeSet) :
    Found CodeSet :=
  let set := if negated then set.complement modes.lastCode else set
  if modes.unicode || set.isAscii then .ok set else refuse .notText stretch

end CodeSet

namespace LetterClass

def ranges : LetterClass → List (Nat × Nat)
  | digit => [(48, 57)]
  | space => [(9, 13), (32, 32)]
  | word => [(48, 57), (65, 90), (95, 95), (97, 122)]

def codes (modes : Modes) (stretch : Stretch) (kind : LetterClass) (negated : Bool) :
    Found CodeSet :=
  if modes.unicode then refuse .noLetterClass stretch
  else (CodeSet.ofRanges kind.ranges).negatedIf modes stretch negated

end LetterClass

/-- The name of a property as names are compared: without what may stand between words, and without
the word that may begin it. -/
def plainName (name : String) : String :=
  let ascii := name.toList.map Char.toLower
  let ascii := if ['i', 's'].isPrefixOf ascii then ascii.drop 2 else ascii
  String.ofList (ascii.filter fun c => c.toNat < 128 && !(c = ' ' || c = '_' || c = '-'))

/-- The names of properties that are also those of their values. -/
def valueNames : List String := ["cf", "sc", "lc"]

/-- There are no tables of properties. -/
def propertyCodes (modes : Modes) (stretch : Stretch) (name : String) : Found CodeSet :=
  if !modes.unicode then refuse .notUnicode stretch
  else if valueNames.contains (plainName name) then refuse .noPropertyValue stretch
  else refuse .noProperty stretch

namespace Literal

/-- Whether the literal is a byte that is no character. -/
def isPartial (modes : Modes) (literal : Literal) : Bool :=
  !modes.unicode && literal.isByte && 128 ≤ literal.char.toNat

/-- The code of a literal in a set. -/
def code (modes : Modes) (literal : Literal) : Found Nat :=
  let code := literal.char.toNat
  if modes.unicode || code < 128 then .ok code
  else if literal.isPartial modes then refuse .notText literal.stretch
  else refuse .notUnicode literal.stretch

/-- The characters that a literal outside of sets stands for. -/
def codes (modes : Modes) (literal : Literal) : Found CodeSet :=
  let code := literal.char.toNat
  if literal.isPartial modes then refuse .notText literal.stretch
  else (CodeSet.range code code).folded modes literal.stretch

end Literal

namespace SetOperator

def apply : SetOperator → CodeSet → CodeSet → CodeSet
  | intersection => CodeSet.intersection
  | difference => CodeSet.difference
  | symmetricDifference => CodeSet.symmetricDifference

end SetOperator

namespace SetTree

mutual

/-- The characters of a set. -/
def codes (modes : Modes) : SetTree → Found CodeSet
  | literal written => do
    let code ← written.code modes
    return .range code code
  | range _ first last => do return .range (← first.code modes) (← last.code modes)
  | named stretch ranges negated => do
    ((← (CodeSet.ofRanges ranges).folded modes stretch)).negatedIf modes stretch negated
  | letter stretch kind negated => kind.codes modes stretch negated
  | property stretch name => propertyCodes modes stretch name
  | bracketed stretch negated inner => do
    (← (← inner.codes modes).folded modes stretch).negatedIf modes stretch negated
  | union _ items => allCodes modes items
  | operation _ operator left right => do
    let leftCodes ← left.codes modes
    let rightCodes ← (← right.codes modes).folded modes right.stretch
    return operator.apply (← leftCodes.folded modes left.stretch) rightCodes

def allCodes (modes : Modes) : List SetTree → Found CodeSet
  | [] => .ok .none
  | set :: sets => do
    let codes ← set.codes modes
    return codes.union (← allCodes modes sets)

end

end SetTree

namespace Assertion

def anchor (modes : Modes) : Assertion → Anchor
  | textStart => .textStart
  | textEnd => .textEnd
  | lineStart =>
    if !modes.multiline then .textStart
    else if modes.anyLineEnd then .anyLineStart else .lineStart
  | lineEnd =>
    if !modes.multiline then .textEnd else if modes.anyLineEnd then .anyLineEnd else .lineEnd
  | wordBoundary => if modes.unicode then .anyWord else .wordBoundary
  | noWordBoundary => if modes.unicode then .anyWord else .noWordBoundary
  | wordStart => if modes.unicode then .anyWord else .wordStart
  | wordEnd => if modes.unicode then .anyWord else .wordEnd
  | wordStartHalf => if modes.unicode then .anyWord else .wordStartHalf
  | wordEndHalf => if modes.unicode then .anyWord else .wordEndHalf

end Assertion

/-- The characters that a dot stands for. -/
def dotCodes (modes : Modes) : CodeSet :=
  if modes.dotAll then .range 0 CodeSet.lastCode
  else
    let ends := if modes.anyLineEnd then [(10, 10), (13, 13)] else [(10, 10)]
    (CodeSet.ofRanges ends).complement CodeSet.lastCode

abbrev Interpreter := StateT Modes (Except PlacedFault)

namespace Tree

mutual

/-- What a tree matches with the flags that are set; the flags that are set after it are kept. -/
def matcher : Tree → Interpreter Matcher
  | empty _ => return .empty
  | flags _ changes => do
    modify (·.change changes)
    return .empty
  | literal written => do return .one (← written.codes (← get))
  | dot stretch => do
    let modes ← get
    if !modes.unicode then refuse .notText stretch
    return .one (dotCodes modes)
  | assertion _ condition => return .look (condition.anchor (← get))
  | letter stretch kind negated => do return .one (← kind.codes (← get) stretch negated)
  | property stretch name => do return .one (← propertyCodes (← get) stretch name)
  | set stretch negated inner => do
    let modes ← get
    let codes ← (← inner.codes modes).folded modes stretch
    return .one (← codes.negatedIf modes stretch negated)
  | repeated _ least most tree => return .repeated least most (← tree.matcher)
  | group _ changes tree => do
    let modes ← get
    modify (·.change changes)
    let matcher ← tree.matcher
    modify fun _ => modes
    return matcher
  | either _ trees => someMatcher trees
  | sequence _ trees => allMatcher trees

/-- One tree after the other. -/
def allMatcher : List Tree → Interpreter Matcher
  | [] => return .empty
  | tree :: trees => do
    let first ← tree.matcher
    return first.andThen (← allMatcher trees)

/-- One of the trees. -/
def someMatcher : List Tree → Interpreter Matcher
  | [] => return .one .none
  | tree :: trees => do
    let first ← tree.matcher
    return .either first (← someMatcher trees)

end

end Tree

inductive PatternFault where
  | placed (fault : PlacedFault)
  /-- It takes too many states to match. -/
  | tooLarge
  /-- It cannot be matched without tables for all alphabets. -/
  | noTables
  deriving DecidableEq, Repr

namespace PatternFault

def message (pattern : String) : PatternFault → String
  | placed fault => fault.message pattern
  | tooLarge => "Compiled regex exceeds size limit of 10485760 bytes."
  | noTables => "error building NFA"

end PatternFault

namespace Matcher

/-- The most states that a machine may have, at 32 bytes a state. -/
def maxSize : Nat := 10485760 / 32

/-- What a pattern matches. -/
def ofText (pattern : String) : Except PatternFault Matcher := do
  let tree ← (Tree.ofText pattern).mapError .placed
  let (matcher, _) ← (tree.matcher.run .initial).mapError .placed
  if maxSize < matcher.size then .error .tooLarge
  else if matcher.asksForAnyWord then .error .noTables
  else .ok matcher

end Matcher

end ScriptFront.Pattern
