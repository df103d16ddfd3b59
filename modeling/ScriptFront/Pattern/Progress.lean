import ScriptFront.Pattern.Fault
import ScriptFront.Text.Space

/-!
# Progress through a pattern

A reader takes characters from a pattern or finds a fault. `repeatStep` is how readers repeat: what
is left of the pattern gets shorter with every repetition.
-/
namespace ScriptFront.Pattern

structure Progress where
  rest : List Char
  /-- Where the rest begins. -/
  mark : Mark
  /-- Whether white space and comments mean nothing. -/
  spaced : Bool
  /-- The names of groups, and where they are given. -/
  names : List (String × Stretch)
  deriving Repr

namespace Progress

def start (text : List Char) : Progress := ⟨text, .first, false, []⟩

/-- Past the next character. -/
def next (progress : Progress) : Progress :=
  match progress.rest with
  | [] => progress
  | c :: rest => { progress with rest, mark := progress.mark.after c }

/-- Past white space and comments, which go from a number sign to the end of the line. -/
def pastSpace (commented : Bool) (mark : Mark) : List Char → Mark × List Char
  | [] => (mark, [])
  | c :: rest =>
    if commented then pastSpace (c ≠ '\n') (mark.after c) rest
    else if isSpace c then pastSpace false (mark.after c) rest
    else if c = '#' then pastSpace true (mark.after c) rest
    else (mark, c :: rest)

end Progress

abbrev Reader := StateT Progress (Except PlacedFault)

def fail {α : Type} (cause : FaultCause) (stretch : Stretch) : Reader α :=
  throw ⟨cause, stretch, none⟩

def here : Reader Mark := return (← get).mark

/-- From a place to here. -/
def since (start : Mark) : Reader Stretch := return ⟨start, ← here⟩

def next? : Reader (Option Char) := return (← get).rest.head?

def atEnd : Reader Bool := return (← get).rest.isEmpty

/-- The stretch of the next character. -/
def nextStretch : Reader Stretch := return ⟨← here, (← get).next.mark⟩

def skip : Reader Unit := modify Progress.next

def skipSpace : Reader Unit :=
  modify fun progress =>
    if progress.spaced then
      let (mark, rest) := Progress.pastSpace false progress.mark progress.rest
      { progress with mark, rest }
    else progress

/-- Past the next character and what means nothing after it. -/
def skipSpaced : Reader Unit := do
  skip
  skipSpace

/-- Past a text, if it is next. -/
def skipText (text : String) : Reader Bool := do
  if text.toList.isPrefixOf (← get).rest then
    modify fun progress => text.toList.foldl (fun progress _ => progress.next) progress
    return true
  else return false

/-- Past the first of some texts that is next. -/
def skipOneOf : List String → Reader Bool
  | [] => return false
  | text :: texts => do
    if ← skipText text then return true
    skipOneOf texts

/-- Repeats a step until the pattern ends or the step reads nothing. -/
def repeatStep {σ : Type} (step : σ → Reader σ) (state : σ) (progress : Progress) :
    Except PlacedFault (σ × Progress) :=
  if progress.rest.isEmpty then .ok (state, progress)
  else
    match step state progress with
    | .error fault => .error fault
    | .ok (state, later) =>
      if later.rest.length < progress.rest.length then repeatStep step state later
      else .ok (state, later)
termination_by progress.rest.length

/-- The characters up to the first that is not accepted; `advance` goes past each. -/
def readWhile (accepts : Char → Bool) (advance : Reader Unit) : Reader (List Char) := do
  let step (taken : List Char) : Reader (List Char) := do
    match ← next? with
    | none => return taken
    | some c =>
      if accepts c then
        advance
        return c :: taken
      else return taken
  return (← repeatStep step []).reverse

end ScriptFront.Pattern
