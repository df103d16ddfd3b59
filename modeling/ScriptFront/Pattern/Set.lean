import ScriptFront.Pattern.Escape

/-!
# Sets of characters in patterns

A set is written between brackets: characters, ranges and classes one after the other are its union,
and there are operators between unions. Sets may be nested. The reader keeps what is open on a
stack, the innermost set first.
-/
namespace ScriptFront.Pattern

/-- Part of a union; the items are held backward. -/
structure SetUnion where
  stretch : Stretch
  items : List SetTree
  deriving Repr

namespace SetUnion

def startAt (mark : Mark) : SetUnion := ⟨.point mark, []⟩

def push (union : SetUnion) (item : SetTree) : SetUnion :=
  let start := if union.items.isEmpty then item.stretch.start else union.stretch.start
  ⟨⟨start, item.stretch.stop⟩, item :: union.items⟩

/-- The union; a single item stands for itself. -/
def tree (union : SetUnion) : SetTree :=
  match union.items with
  | [item] => item
  | items => .union union.stretch items.reverse

end SetUnion

/-- A set whose bracket is open. -/
structure OpenSet where
  /-- What was read of the set around it. -/
  outer : SetUnion
  /-- From the bracket to where the items begin. -/
  opening : Stretch
  negated : Bool
  /-- What is on the left of the last operator. -/
  pending : Option (SetOperator × SetTree)
  deriving Repr

namespace OpenSet

/-- What was read of a set whose last union is given. -/
def contents (level : OpenSet) (union : SetUnion) : SetTree :=
  let right := union.tree
  match level.pending with
  | none => right
  | some (operator, left) =>
    .operation ⟨left.stretch.start, right.stretch.stop⟩ operator left right

end OpenSet

structure SetProgress where
  union : SetUnion
  /-- The sets that are open, the innermost first. -/
  levels : List OpenSet
  /-- The outermost set, once it is closed. -/
  closed : Option Tree
  deriving Repr

namespace SetProgress

/-- What is shown where a bracket is not closed. -/
def opening (state : SetProgress) (default : Stretch) : Stretch :=
  (state.levels.head?.map OpenSet.opening).getD default

def push (state : SetProgress) (item : SetTree) : SetProgress :=
  { state with union := state.union.push item }

end SetProgress

/-- The ranges of the classes that have names. -/
def namedRanges? (name : String) : Option (List (Nat × Nat)) :=
  match name with
  | "alnum" => some [(48, 57), (65, 90), (97, 122)]
  | "alpha" => some [(65, 90), (97, 122)]
  | "ascii" => some [(0, 127)]
  | "blank" => some [(9, 9), (32, 32)]
  | "cntrl" => some [(0, 31), (127, 127)]
  | "digit" => some [(48, 57)]
  | "graph" => some [(33, 126)]
  | "lower" => some [(97, 122)]
  | "print" => some [(32, 126)]
  | "punct" => some [(33, 47), (58, 64), (91, 96), (123, 126)]
  | "space" => some [(9, 13), (32, 32)]
  | "upper" => some [(65, 90)]
  | "word" => some [(48, 57), (65, 90), (95, 95), (97, 122)]
  | "xdigit" => some [(48, 57), (65, 70), (97, 102)]
  | _ => none

/-- A class by its name between `[:` and `:]`, if there is one. -/
def readNamed? : Reader (Option SetTree) := do
  let before ← get
  let start ← here
  if !(← skipText "[:") then return none
  let negated ← skipText "^"
  let name ← readWhile (· ≠ ':') skip
  if !(← skipText ":]") then
    set before
    return none
  match namedRanges? (String.ofList name) with
  | none =>
    set before
    return none
  | some ranges => return some (.named (← since start) ranges negated)

/-- Opens a set in a union. A closing bracket at its beginning belongs to it, and so do hyphens. -/
def readOpening (outer : SetUnion) : Reader (OpenSet × SetUnion) := do
  let start ← here
  skipSpaced
  if ← atEnd then fail .setOpen (← since start)
  let negated := (← next?) = some '^'
  if negated then
    skipSpaced
    if ← atEnd then fail .setOpen (← since start)
  let hyphen (union : SetUnion) : Reader SetUnion := do
    if (← next?) ≠ some '-' then return union
    let stretch ← nextStretch
    skipSpaced
    if ← atEnd then fail .setOpen (.point start)
    return union.push (.literal ⟨stretch, '-', false⟩)
  let union ← repeatStep hyphen (.startAt (← here))
  if !union.items.isEmpty || (← next?) ≠ some ']' then
    return (⟨outer, ← since start, negated, none⟩, union)
  let stretch ← nextStretch
  skipSpaced
  if ← atEnd then fail .setOpen (← since start)
  return (⟨outer, ← since start, negated, none⟩, union.push (.literal ⟨stretch, ']', false⟩))

/-- A character, or what a backslash begins. -/
def readPart : Reader Tree := do
  match ← next? with
  | some '\\' => readEscape
  | next =>
    let stretch ← nextStretch
    skip
    return .literal ⟨stretch, next.getD ' ', false⟩

/-- What may be an item of a set. -/
def itemOf : Tree → Reader SetTree
  | .literal literal => return .literal literal
  | .letter stretch kind negated => return .letter stretch kind negated
  | .property stretch name => return .property stretch name
  | other => fail .setEscape other.stretch

/-- What may be the end of a range. -/
def rangeEndOf : Tree → Reader Literal
  | .literal literal => return literal
  | other => fail .rangeEnd other.stretch

/-- The character after the next one that means something. At the beginning of a comment it is the
first character of it. -/
def afterNext (progress : Progress) : Option Char :=
  let rest := progress.rest.drop 1
  if progress.spaced then
    match rest.dropWhile isSpace with
    | '#' :: comment => (comment.dropWhile isSpace).head?
    | meaning => meaning.head?
  else rest.head?

/-- A part of a set, or a range between two. -/
def readItem (opening : Stretch) : Reader SetTree := do
  let first ← readPart
  skipSpace
  if ← atEnd then fail .setOpen opening
  let after := afterNext (← get)
  if (← next?) ≠ some '-' || after = some ']' || after = some '-' then itemOf first
  else
    skipSpaced
    if ← atEnd then fail .setOpen opening
    let last ← readPart
    let stretch : Stretch := ⟨first.stretch.start, last.stretch.stop⟩
    let low ← rangeEndOf first
    let high ← rangeEndOf last
    if high.char < low.char then fail .rangeOrder stretch
    return .range stretch low high

/-- The operator that a text begins with. -/
def operatorOf? : List Char → Option SetOperator
  | '&' :: '&' :: _ => some .intersection
  | '-' :: '-' :: _ => some .difference
  | '~' :: '~' :: _ => some .symmetricDifference
  | _ => none

/-- Closes the innermost set. -/
def closeSet (state : SetProgress) : Reader SetProgress := do
  match state.levels with
  | [] => return state
  | level :: levels =>
    skip
    let stretch ← since level.opening.start
    let contents := level.contents state.union
    if levels.isEmpty then
      return { state with levels, closed := some (.set stretch level.negated contents) }
    else
      let union := level.outer.push (.bracketed stretch level.negated contents)
      return { state with levels, union }

/-- Begins another union on the right of an operator. -/
def readOperator (state : SetProgress) (operator : SetOperator) : Reader SetProgress := do
  skip
  skip
  let union := SetUnion.startAt (← here)
  match state.levels with
  | [] => return { state with union }
  | level :: levels =>
    let level := { level with pending := some (operator, level.contents state.union) }
    return { state with union, levels := level :: levels }

/-- Reads what is next in a set. -/
def readSetStep (start : Mark) (state : SetProgress) : Reader SetProgress := do
  if state.closed.isSome then return state
  skipSpace
  let opening := state.opening (.point start)
  match ← next? with
  | none => fail .setOpen opening
  | some '[' =>
    let named ← if state.levels.isEmpty then pure none else readNamed?
    match named with
    | some item => return state.push item
    | none =>
      let (level, union) ← readOpening state.union
      return { state with union, levels := level :: state.levels }
  | some ']' => closeSet state
  | some _ =>
    match operatorOf? (← get).rest with
    | some operator => readOperator state operator
    | none => return state.push (← readItem opening)

/-- A set, whose bracket is next. -/
def readSet : Reader Tree := do
  let start ← here
  let state ← repeatStep (readSetStep start) ⟨.startAt start, [], none⟩
  match state.closed with
  | some tree => return tree
  | none => fail .setOpen (state.opening (.point start))

end ScriptFront.Pattern
