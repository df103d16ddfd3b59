/-!
# Spans

A stretch of a text, given by where it starts and how long it is. Both are counted in characters,
which is how the scanner walks a source; `ScriptFront.Text.LineMap` turns them into bytes.
-/
namespace ScriptFront

structure Span where
  start : Nat
  length : Nat
  deriving DecidableEq, Repr

namespace Span

/-- The first position after the span. -/
def stop (span : Span) : Nat := span.start + span.length

def isEmpty (span : Span) : Bool := span.length == 0

/-- The empty span at the very beginning. -/
def origin : Span := ⟨0, 0⟩

/-- The half-open interval, as in `[3, 7)`. -/
def interval (span : Span) : String :=
  "[" ++ toString span.start ++ ", " ++ toString span.stop ++ ")"

/-- The two ends, as in `3..7`. -/
def ends (span : Span) : String :=
  toString span.start ++ ".." ++ toString span.stop

end Span

end ScriptFront
