import ScriptFront.Text.Span

/-!
# Line maps

A text is walked once, and where its lines begin and how many bytes precede each character is
written into two tables. From these any character position is turned into a line and a column, or
into a byte position. Positions past the end belong to the last line, and their byte position is
the end of the text.
-/
namespace ScriptFront

structure LineMap where
  /-- The positions at which lines begin, in increasing order; the first is 0. -/
  lineStarts : Array Nat
  /-- The bytes before each character, and at last the bytes of the whole text. -/
  byteOffsets : Array Nat
  deriving DecidableEq, Repr

/-- A line counted from 1 and a column counted from 0. -/
structure Place where
  line : Nat
  column : Nat
  deriving DecidableEq, Repr

namespace LineMap

/-- Walks the characters that follow `position` characters of `bytes` bytes, and adds to the tables
of those. -/
def extend (lineStarts byteOffsets : Array Nat) (position bytes : Nat) : List Char → LineMap
  | [] => ⟨lineStarts, byteOffsets.push bytes⟩
  | c :: rest =>
    extend (if c = '\n' then lineStarts.push (position + 1) else lineStarts)
      (byteOffsets.push bytes) (position + 1) (bytes + c.utf8Size) rest

def ofText (text : String) : LineMap := extend #[0] #[] 0 0 text.toList

def lineCount (map : LineMap) : Nat := map.lineStarts.size

/--
How many entries of an increasing table are at most `position`, given that the first `low` are and
that none from `high` on is: the interval between is halved until it is empty.
-/
def countUpTo (table : Array Nat) (position low high : Nat) : Nat :=
  if low < high then
    let middle := (low + high) / 2
    if table.getD middle 0 ≤ position then countUpTo table position (middle + 1) high
    else countUpTo table position low middle
  else low
termination_by high - low

/-- The line, counted from 1, that a position belongs to. A line feed belongs to the line it
ends. -/
def lineOf (map : LineMap) (position : Nat) : Nat :=
  countUpTo map.lineStarts position 0 map.lineStarts.size

def placeOf (map : LineMap) (position : Nat) : Place :=
  let line := map.lineOf position
  ⟨line, position - map.lineStarts.getD (line - 1) 0⟩

/-- The bytes before a position. -/
def byteOffset (map : LineMap) (position : Nat) : Nat :=
  map.byteOffsets.getD (min position (map.byteOffsets.size - 1)) 0

/-- Where a span begins and ends, in bytes. -/
def byteRange (map : LineMap) (span : Span) : Nat × Nat :=
  (map.byteOffset span.start, map.byteOffset span.stop)

end LineMap

/-- The bytes of a text from one byte position to another, which both lie between characters. -/
def bytesBetween (text : String) (start stop : Nat) : String :=
  String.Pos.Raw.extract text ⟨start⟩ ⟨stop⟩

end ScriptFront
