/-!
# Ranges of code points

Properties of characters are given as tables of ranges of code points in increasing order, each by
its first and its last code point. A table is searched by halving.
-/
namespace ScriptFront

/-- Whether a code point is in one of the ranges between `low` and `high`, which is halved until it
is empty. -/
def inRanges (ranges : Array (Nat × Nat)) (code low high : Nat) : Bool :=
  if low < high then
    let middle := (low + high) / 2
    let range := ranges.getD middle (0, 0)
    if code < range.1 then inRanges ranges code low middle
    else if range.2 < code then inRanges ranges code (middle + 1) high
    else true
  else false
termination_by high - low

/-- Whether a character is in one of the ranges. -/
def withinRanges (ranges : Array (Nat × Nat)) (c : Char) : Bool :=
  inRanges ranges c.toNat 0 ranges.size

end ScriptFront
