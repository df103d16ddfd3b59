/-!
# Patterns

What a pattern is made of. Every part knows the stretch of the pattern that it was read from, so
that a fault that is found later can be shown in its place.
-/
namespace ScriptFront.Pattern

/-- A place in a pattern: its line, and the character in the line, both counted from 1. -/
structure Mark where
  line : Nat
  column : Nat
  deriving DecidableEq, Repr

namespace Mark

def first : Mark := ⟨1, 1⟩

/-- The place after a character. -/
def after (mark : Mark) (c : Char) : Mark :=
  if c = '\n' then ⟨mark.line + 1, 1⟩ else ⟨mark.line, mark.column + 1⟩

def before (left right : Mark) : Bool :=
  left.line < right.line || left.line == right.line && left.column < right.column

end Mark

structure Stretch where
  start : Mark
  stop : Mark
  deriving DecidableEq, Repr

namespace Stretch

/-- The empty stretch at a place. -/
def point (mark : Mark) : Stretch := ⟨mark, mark⟩

def onOneLine (stretch : Stretch) : Bool := stretch.start.line == stretch.stop.line

end Stretch

/-- Ways to read and to match what follows. -/
inductive Flag where
  | caseless | multiline | dotAll | swapGreed | unicode | anyLineEnd | spaced
  deriving DecidableEq, Repr

namespace Flag

def ofLetter? : Char → Option Flag
  | 'i' => some caseless
  | 'm' => some multiline
  | 's' => some dotAll
  | 'U' => some swapGreed
  | 'u' => some unicode
  | 'R' => some anyLineEnd
  | 'x' => some spaced
  | _ => none

end Flag

/-- Flags with whether they are set or cleared. -/
abbrev FlagChanges := List (Flag × Bool)

structure Literal where
  stretch : Stretch
  char : Char
  /-- Whether it is written as the two digits of a byte. -/
  isByte : Bool
  deriving DecidableEq, Repr

/-- Classes of characters that have one letter. -/
inductive LetterClass where
  | digit | space | word
  deriving DecidableEq, Repr

/-- Conditions on a place that a pattern can state. -/
inductive Assertion where
  | lineStart | lineEnd | textStart | textEnd
  | wordBoundary | noWordBoundary | wordStart | wordEnd | wordStartHalf | wordEndHalf
  deriving DecidableEq, Repr

inductive SetOperator where
  | intersection | difference | symmetricDifference
  deriving DecidableEq, Repr

/-- A set of characters. -/
inductive SetTree where
  | literal (literal : Literal)
  | range (stretch : Stretch) (first last : Literal)
  /-- A class with a name, by the ranges of its characters. -/
  | named (stretch : Stretch) (ranges : List (Nat × Nat)) (negated : Bool)
  | letter (stretch : Stretch) (kind : LetterClass) (negated : Bool)
  | property (stretch : Stretch) (name : String)
  | bracketed (stretch : Stretch) (negated : Bool) (set : SetTree)
  | union (stretch : Stretch) (items : List SetTree)
  | operation (stretch : Stretch) (operator : SetOperator) (left right : SetTree)
  deriving Repr

namespace SetTree

def stretch : SetTree → Stretch
  | .literal written => written.stretch
  | range stretch .. | named stretch .. | letter stretch .. | property stretch ..
  | bracketed stretch .. | union stretch .. | operation stretch .. => stretch

end SetTree

inductive Tree where
  | empty (stretch : Stretch)
  | flags (stretch : Stretch) (changes : FlagChanges)
  | literal (literal : Literal)
  | dot (stretch : Stretch)
  | assertion (stretch : Stretch) (assertion : Assertion)
  | letter (stretch : Stretch) (kind : LetterClass) (negated : Bool)
  | property (stretch : Stretch) (name : String)
  | set (stretch : Stretch) (negated : Bool) (set : SetTree)
  | repeated (stretch : Stretch) (least : Nat) (most : Option Nat) (tree : Tree)
  | group (stretch : Stretch) (changes : FlagChanges) (tree : Tree)
  | either (stretch : Stretch) (trees : List Tree)
  | sequence (stretch : Stretch) (trees : List Tree)
  deriving Repr

namespace Tree

def stretch : Tree → Stretch
  | .literal written => written.stretch
  | empty stretch | flags stretch _ | dot stretch | assertion stretch _ | letter stretch ..
  | property stretch _ | set stretch .. | repeated stretch .. | group stretch ..
  | either stretch _ | sequence stretch _ => stretch

/-- Trees one after the other; a single tree stands for itself. -/
def ofSequence (stretch : Stretch) : List Tree → Tree
  | [] => empty stretch
  | [tree] => tree
  | trees => sequence stretch trees

end Tree

end ScriptFront.Pattern
