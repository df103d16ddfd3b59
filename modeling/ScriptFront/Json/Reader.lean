import ScriptFront.Json.Fault

/-!
# Readers

A reader takes something from the front of a text and leaves the rest, or meets a fault. It never
leaves more than it was given, which each reader carries as a proof, so that loops of readers end.
-/
namespace ScriptFront.Json

structure Reader (α : Type) where
  run : List Char → Except Fault (α × List Char)
  shrinks : ∀ {text value rest}, run text = .ok (value, rest) → rest.length ≤ text.length

namespace Reader

variable {α β : Type}

protected def pure (value : α) : Reader α where
  run text := .ok (value, text)
  shrinks := by
    intro text found rest read
    cases read
    exact Nat.le_refl _

protected def bind (first : Reader α) (second : α → Reader β) : Reader β where
  run text :=
    match first.run text with
    | .ok (value, rest) => (second value).run rest
    | .error fault => .error fault
  shrinks := by
    intro text found rest read
    split at read
    next value between firstRead =>
      exact Nat.le_trans ((second value).shrinks read) (first.shrinks firstRead)
    · cases read

instance : Monad Reader where
  pure := Reader.pure
  bind := Reader.bind

/-- Looks at the text without taking anything. -/
def ahead : Reader (List Char) where
  run text := .ok (text, text)
  shrinks := by
    intro text found rest read
    cases read
    exact Nat.le_refl _

/-- Takes some characters, or all if there are fewer. -/
def drop (count : Nat) : Reader Unit where
  run text := .ok ((), text.drop count)
  shrinks := by
    intro text found rest read
    cases read
    simp

/-- Takes characters as long as they satisfy a condition. -/
def takeWhile (holds : Char → Bool) : Reader (List Char) where
  run text := .ok (text.takeWhile holds, text.dropWhile holds)
  shrinks := by
    intro text found rest read
    cases read
    exact (List.dropWhile_sublist holds).length_le

def fail (fault : Fault) : Reader α where
  run _ := .error fault
  shrinks := by
    intro text found rest read
    cases read

/-- A fault in front of what is left. -/
def failBefore (cause : Cause) : Reader α := do fail (.before cause (← ahead))

/-- A fault at the next byte. -/
def failUpon (cause : Cause) : Reader α := do fail (.upon cause (← ahead))

end Reader

def isBlank (c : Char) : Bool := c = ' ' || c = '\n' || c = '\t' || c = '\r'

namespace Reader

/-- Takes white space. -/
def blanks : Reader Unit := do
  let _ ← takeWhile isBlank

/-- Takes white space and looks at what follows. -/
def next : Reader (List Char) := do
  blanks
  ahead

/-- Takes the given characters. -/
def word : List Char → Reader Unit
  | [] => pure ()
  | expected :: more => do
    match ← ahead with
    | [] => failBefore .endInValue
    | c :: _ =>
      if c = expected then
        drop 1
        word more
      else failUpon .expectedWord

end Reader

end ScriptFront.Json
