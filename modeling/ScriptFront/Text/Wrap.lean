import ScriptFront.Text.Alphanumeric
import ScriptFront.Text.LineBreak
import ScriptFront.Text.Sequence

/-!
# Wrapped text

A text is set into lines of a given width: each line takes as many words as fit on it, and the
spaces at its end are left out. A word is what lies between two places where a line may end; it is
divided after a hyphen between letters or digits, and a word that does not fit on a line is broken
where it has to be. Control sequences take no room, and belong to the word that follows them.
-/
namespace ScriptFront

/-- A part of a text that is kept on one line, and the spaces after it. -/
structure TextWord where
  text : List Char
  spaces : Nat
  deriving DecidableEq, Repr

namespace TextWord

def width (word : TextWord) : Nat := textWidth word.text

/-- Takes the spaces from the end of a text. -/
def ofText (text : List Char) : TextWord :=
  let backward := text.reverse
  ⟨(backward.dropWhile (· = ' ')).reverse, (backward.takeWhile (· = ' ')).length⟩

/-- The parts of a word, of which the last has the spaces after it. -/
def ofParts (spaces : Nat) : List (List Char) → List TextWord
  | [] => []
  | [last] => [⟨last, spaces⟩]
  | part :: rest => ⟨part, 0⟩ :: ofParts spaces rest

/-- Characters after which a word goes on, although a line may end there: a hyphen, and the hyphen
that is shown at the end of a line only. -/
def holds (c : Char) : Bool := c = '-' || c = '\xad'

/-- The last one that holds no longer does. -/
def withoutLast (begins : List Bool) : List Bool :=
  let backward := begins.reverse
  (backward.takeWhile (!·) ++ (backward.dropWhile (!·)).set 0 false).reverse

/-- For each character that is shown whether a word begins with it. If the text ends with a
character after which a word goes on, its last two words are one. -/
def begins (shown : List Char) : List Bool :=
  let begins := List.zipWith (fun before may => may && !(before.any holds))
    (none :: shown.map some) (lineBreaks shown)
  if shown.getLast?.any holds then withoutLast begins else begins

/-- The pieces of a text word by word; `word` is what has been read of a word, backward. -/
def gather (begins : List Bool) (word : List Char) : List TextPiece → List (List Char)
  | [] => if word.isEmpty then [] else [word.reverse]
  | piece :: rest =>
    let left := if piece.isSequence then false :: begins.tail else begins.tail
    if begins.headD false then word.reverse :: gather left piece.chars.reverse rest
    else gather left (piece.chars.reverse ++ word) rest

/-- The words of a line. -/
def ofLine (line : List Char) : List TextWord :=
  let pieces := textPieces line
  let shown := (pieces.filter (!·.isSequence)).flatMap TextPiece.chars
  (gather (begins shown) [] pieces).map ofText

/-- The parts of a text that end in a hyphen between letters or digits. -/
def hyphenParts (before : Option Char) (part : List Char) : List Char → List (List Char)
  | [] => [part.reverse]
  | c :: rest =>
    if c = '-' && before.any isAlphanumeric && rest.head?.any isAlphanumeric then
      (c :: part).reverse :: hyphenParts (some c) [] rest
    else hyphenParts (some c) (c :: part) rest

/-- Breaks pieces of text into parts that are no wider than `limit`. -/
def broken (limit width : Nat) (part : List Char) : List TextPiece → List (List Char)
  | [] => if part.isEmpty then [] else [part.reverse]
  | piece :: rest =>
    let more := textWidth piece.chars
    if !piece.isSequence && 0 < width && limit < width + more then
      part.reverse :: broken limit more piece.chars.reverse rest
    else broken limit (width + more) (piece.chars.reverse ++ part) rest

/-- The parts of a word between which a line may end. -/
def parts (limit : Nat) (word : TextWord) : List TextWord :=
  (ofParts word.spaces (hyphenParts none [] word.text)).flatMap fun part =>
    if limit < part.width then ofParts part.spaces (broken limit 0 [] (textPieces part.text))
    else [part]

end TextWord

/-- Sets words into lines; `line` holds the words of a line backward, which take `width` columns. -/
def fillLines (limit : Nat) (line : List TextWord) (width : Nat) :
    List TextWord → List (List TextWord)
  | [] => [line.reverse]
  | word :: rest =>
    let after := word.width + word.spaces
    if !line.isEmpty && limit < width + word.width then
      line.reverse :: fillLines limit [word] after rest
    else fillLines limit (word :: line) (width + after) rest

/-- The text of a line without the spaces at its end. -/
def lineText : List TextWord → List Char
  | [] => []
  | [last] => last.text
  | word :: rest => word.text ++ List.replicate word.spaces ' ' ++ lineText rest

/-- The lines of a text, none wider than `limit`. -/
def wrapped (limit : Nat) (text : List Char) : List (List Char) :=
  (text.splitOn '\n').flatMap fun line =>
    (fillLines limit [] 0 ((TextWord.ofLine line).flatMap (TextWord.parts limit))).map lineText

end ScriptFront
