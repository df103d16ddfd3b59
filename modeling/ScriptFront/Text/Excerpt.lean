import ScriptFront.Text.LineMap
import ScriptFront.Text.Width

/-!
# Excerpts

A part of a source that is shown with line numbers: the line in which a stretch of bytes begins, one
line before it and the lines up to the one after it. Lines end with a line feed, a carriage return,
or both. Only a line feed begins a new row on the page, though, so that a row may hold several
lines.
-/
namespace ScriptFront

/-- How a line ends. -/
inductive LineEnding where
  | none | lineFeed | carriageReturn | both
  deriving DecidableEq, Repr

namespace LineEnding

def length : LineEnding → Nat
  | none => 0
  | lineFeed | carriageReturn => 1
  | both => 2

/-- Whether a new row begins after the line. -/
def endsRow : LineEnding → Bool
  | lineFeed | both => true
  | none | carriageReturn => false

end LineEnding

/-- A line of a source. -/
structure SourceLine where
  /-- The bytes of the source before the line. -/
  offset : Nat
  text : List Char
  /-- The bytes of the text. -/
  length : Nat
  ending : LineEnding
  deriving DecidableEq, Repr

namespace SourceLine

/-- Where the next line begins. -/
def stop (line : SourceLine) : Nat := line.offset + line.length + line.ending.length

/-- The lines of a source of which `offset` bytes have been read, and then a part of a line: its
text backward and the bytes of it. A line that would be empty at the end is none. -/
def split (offset : Nat) (part : List Char) (length : Nat) : List Char → List SourceLine
  | [] => if part.isEmpty then [] else [⟨offset, part.reverse, length, .none⟩]
  | '\r' :: '\n' :: rest =>
    ⟨offset, part.reverse, length, .both⟩ :: split (offset + length + 2) [] 0 rest
  | c :: rest =>
    if c = '\n' then
      ⟨offset, part.reverse, length, .lineFeed⟩ :: split (offset + length + 1) [] 0 rest
    else if c = '\r' then
      ⟨offset, part.reverse, length, .carriageReturn⟩ :: split (offset + length + 1) [] 0 rest
    else split offset (c :: part) (length + c.utf8Size) rest

end SourceLine

/-- A row of an excerpt. -/
structure ExcerptRow where
  number : Nat
  /-- The bytes of the source before the row. -/
  offset : Nat
  text : List Char
  /-- The bytes of the text. -/
  length : Nat
  /-- Where the next row begins. -/
  stop : Nat
  deriving DecidableEq, Repr

namespace ExcerptRow

/-- How far apart the columns are that a tabulator moves to. -/
def tabWidth : Nat := 4

/-- The columns that each character of a row takes, of which those before take `column`. What is
between an escape and an `m` takes none. -/
def columns (column : Nat) (escaped : Bool) : List Char → List Nat
  | [] => []
  | c :: rest =>
    let width :=
      if escaped then 0 else if c = '\t' then tabWidth - column % tabWidth else charWidth c
    width :: columns (column + width) (if escaped then c ≠ 'm' else c = '\x1b') rest

/-- The row with spaces for its tabulators. -/
def shown (row : ExcerptRow) : List Char :=
  (row.text.zip (columns 0 false row.text)).flatMap fun (c, width) =>
    if c = '\t' then List.replicate width ' ' else [c]

/-- The columns before a byte of the source. Past the text of the row is one more column. -/
def columnOf (row : ExcerptRow) (offset : Nat) : Nat :=
  let within := offset - row.offset
  let step (state : Nat × Nat) (next : Char × Nat) : Nat × Nat :=
    let bytes := state.1 + next.1.utf8Size
    (bytes, if bytes ≤ within then state.2 + next.2 else state.2)
  let before := ((row.text.zip (columns 0 false row.text)).foldl step (0, 0)).2
  if row.length < within then before + 1 else before

/-- Whether a stretch of bytes is marked in the row: it lies in it, and at least one byte that it
has, or would have if it were not empty, does. -/
def marks (row : ExcerptRow) (start stop : Nat) : Bool :=
  row.offset ≤ start && stop ≤ row.stop && start < row.stop

/-- The row of lines. -/
def ofLines (number : Nat) (lines : List SourceLine) : ExcerptRow :=
  let offset := (lines.head?.map SourceLine.offset).getD 0
  let ending := (lines.getLast?.map SourceLine.ending).getD .none
  let stop := (lines.getLast?.map SourceLine.stop).getD 0
  { number, offset, stop
    text := lines.flatMap fun line =>
      line.text ++ if line.ending = .carriageReturn then ['\r'] else []
    length := stop - offset - if ending.endsRow then ending.length else 0 }

/-- Sets lines into rows; `row` holds the lines of a row backward. The last row counts as one only
if it is ended by a line feed, or by the end of the source. -/
def ofExcerpt (number : Nat) (row : List SourceLine) : List SourceLine → List ExcerptRow
  | [] =>
    match row with
    | [] => []
    | last :: _ =>
      [ofLines (if last.ending = .carriageReturn then number - 1 else number) row.reverse]
  | line :: rest =>
    if line.ending.endsRow then
      ofLines number (line :: row).reverse :: ofExcerpt (number + 1) [] rest
    else ofExcerpt number (line :: row) rest

end ExcerptRow

/-- The lines of a source, and where lines end in it. -/
structure SourceLines where
  lines : Array SourceLine
  /-- Where the lines begin that follow an ended line, in increasing order. -/
  ends : Array Nat
  deriving DecidableEq, Repr

namespace SourceLines

def ofText (text : String) : SourceLines :=
  let lines := SourceLine.split 0 [] 0 text.toList
  ⟨lines.toArray, ((lines.filter (·.ending ≠ .none)).map SourceLine.stop).toArray⟩

/-- How many lines end before a byte. -/
def endsUpTo (source : SourceLines) (offset : Nat) : Nat :=
  LineMap.countUpTo source.ends offset 0 source.ends.size

/-- The line of a byte and its place in the line, both counted from 1. -/
def placeOf (source : SourceLines) (offset : Nat) : Nat × Nat :=
  let before := source.endsUpTo offset
  match source.lines[before]? with
  | some line => (before + 1, min (offset - line.offset) line.length + 1)
  | none => (before + 1, 1)

/-- The rows around a stretch of bytes. -/
def excerpt (source : SourceLines) (start stop : Nat) : List ExcerptRow :=
  let first := source.endsUpTo start - 1
  let last := source.endsUpTo (max stop 1) + 1
  ExcerptRow.ofExcerpt (first + 1) [] (source.lines.extract first (last + 1)).toList

end SourceLines

end ScriptFront
