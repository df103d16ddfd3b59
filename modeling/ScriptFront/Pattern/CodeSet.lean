/-!
# Sets of code points

A set is a list of ranges in increasing order, with gaps between them. Sets are combined by cutting
the code points where one of the sets begins or ends, and asking for each piece whether it is kept.
-/
namespace ScriptFront.Pattern

structure CodeSet where
  ranges : List (Nat × Nat)
  deriving DecidableEq, Repr

namespace CodeSet

def none : CodeSet := ⟨[]⟩

def range (first last : Nat) : CodeSet := ⟨[(first, last)]⟩

def contains (set : CodeSet) (code : Nat) : Bool :=
  set.ranges.any fun range => range.1 ≤ code && code ≤ range.2

def isEmpty (set : CodeSet) : Bool := set.ranges.isEmpty

def isAscii (set : CodeSet) : Bool := set.ranges.all (·.2 < 128)

/-- Where ranges begin, or would go on. -/
def cuts (set : CodeSet) : List Nat := set.ranges.flatMap fun range => [range.1, range.2 + 1]

/-- Puts a range in front of others, and joins it with one that follows at once. -/
def joinOnto (range : Nat × Nat) : List (Nat × Nat) → List (Nat × Nat)
  | [] => [range]
  | next :: rest =>
    if next.1 = range.2 + 1 then (range.1, next.2) :: rest else range :: next :: rest

/-- The code points up to `last` for which `keeps` accepts whether they are in the two sets. -/
def combine (last : Nat) (keeps : Bool → Bool → Bool) (left right : CodeSet) : CodeSet :=
  let cuts := ((0 :: (last + 1) :: (left.cuts ++ right.cuts)).filter (· ≤ last + 1)).mergeSort
  let pieces := (cuts.zip (cuts.drop 1)).filter fun piece =>
    piece.1 < piece.2 && keeps (left.contains piece.1) (right.contains piece.1)
  ⟨pieces.foldr (fun piece ranges => joinOnto (piece.1, piece.2 - 1) ranges) []⟩

/-- The last code point there is. -/
def lastCode : Nat := 0x10ffff

def union : CodeSet → CodeSet → CodeSet := combine lastCode (· || ·)

def intersection : CodeSet → CodeSet → CodeSet := combine lastCode (· && ·)

def difference : CodeSet → CodeSet → CodeSet := combine lastCode fun left right => left && !right

def symmetricDifference : CodeSet → CodeSet → CodeSet := combine lastCode (· != ·)

/-- All other code points up to `last`. -/
def complement (last : Nat) (set : CodeSet) : CodeSet :=
  combine last (fun left _ => !left) set none

def ofRanges (ranges : List (Nat × Nat)) : CodeSet :=
  ranges.foldl (fun set piece => set.union (range piece.1 piece.2)) none

/-- The set with the other case of each of its ASCII letters. -/
def caseless (set : CodeSet) : CodeSet :=
  let letters := (List.range 26).flatMap fun place =>
    [(65 + place, 97 + place), (97 + place, 65 + place)]
  (letters.filter fun letter => set.contains letter.1).foldl
    (fun found letter => found.union (range letter.2 letter.2)) set

end CodeSet

end ScriptFront.Pattern
