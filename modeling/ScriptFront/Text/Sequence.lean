import ScriptFront.Text.Width

/-!
# Control sequences

An escape begins a sequence that controls a terminal and takes no room on it: with a bracket up to
the letter that names the control, or as a command to the system up to a bell or a string
terminator. Any other character after an escape is a sequence with it.
-/
namespace ScriptFront

/-- The rest of a text after the first character that `ends` accepts, and what is before it. -/
def spanThrough (ends : Char → Bool) : List Char → List Char × List Char
  | [] => ([], [])
  | c :: rest =>
    if ends c then ([c], rest)
    else
      let (taken, left) := spanThrough ends rest
      (c :: taken, left)

/-- What is taken through the first such character, and the rest, are the text. -/
theorem spanThrough_append (ends : Char → Bool) (text : List Char) :
    (spanThrough ends text).1 ++ (spanThrough ends text).2 = text := by
  induction text with
  | nil => rfl
  | cons c rest ih => by_cases h : ends c <;> simp [spanThrough, h, ih]

/-- A command to the system after the character `before`, and the rest of the text. -/
def spanCommand (before : Char) : List Char → List Char × List Char
  | [] => ([], [])
  | c :: rest =>
    if c = '\x07' ∨ (c = '\\' ∧ before = '\x1b') then ([c], rest)
    else
      let (taken, left) := spanCommand c rest
      (c :: taken, left)

theorem spanCommand_append (before : Char) (text : List Char) :
    (spanCommand before text).1 ++ (spanCommand before text).2 = text := by
  induction text generalizing before with
  | nil => rfl
  | cons c rest ih =>
    by_cases h : c = '\x07' ∨ (c = '\\' ∧ before = '\x1b') <;> simp [spanCommand, h, ih]

/-- What follows the escape of a sequence, and the rest of the text. -/
def spanSequence : List Char → List Char × List Char
  | [] => ([], [])
  | '[' :: rest =>
    let (taken, left) := spanThrough (fun c => '@' ≤ c && c ≤ '~') rest
    ('[' :: taken, left)
  | ']' :: rest =>
    let (taken, left) := spanCommand ']' rest
    (']' :: taken, left)
  | c :: rest => ([c], rest)

theorem spanSequence_append (text : List Char) :
    (spanSequence text).1 ++ (spanSequence text).2 = text := by
  unfold spanSequence
  split
  · rfl
  · simp [spanThrough_append]
  · simp [spanCommand_append]
  · rfl

/-- A character of a text, or a sequence in it. -/
structure TextPiece where
  chars : List Char
  isSequence : Bool
  deriving DecidableEq, Repr

/-- The text in pieces. -/
def textPieces (text : List Char) : List TextPiece :=
  match text with
  | [] => []
  | c :: rest =>
    if c = '\x1b' then
      ⟨c :: (spanSequence rest).1, true⟩ :: textPieces (spanSequence rest).2
    else ⟨[c], false⟩ :: textPieces rest
termination_by text.length
decreasing_by
  · have h := congrArg List.length (spanSequence_append rest)
    simp only [List.length_append] at h
    simp only [List.length_cons]
    omega
  · simp

/-- The columns that a text takes. -/
def textWidth (text : List Char) : Nat :=
  (textPieces text).foldl
    (fun width piece =>
      if piece.isSequence then width
      else piece.chars.foldl (fun width c => width + charWidth c) width)
    0

end ScriptFront
