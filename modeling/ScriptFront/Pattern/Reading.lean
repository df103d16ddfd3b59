import ScriptFront.Pattern.Set
import ScriptFront.Text.Alphanumeric

/-!
# Reading patterns

A pattern is read from left to right. What is open is kept on a stack, the innermost group first:
what was read of the group around it, and how the group was opened. `Tree.ofText` gives the tree of
a pattern, or the first fault in it.
-/
namespace ScriptFront.Pattern

/-- The largest number that may be written. -/
def maxCount : Nat := 4294967295

/-- A number of repetitions. A fault in it is a value, as what follows may be worse. -/
def readCount : Reader (Except PlacedFault Nat) := do
  let _ ← readWhile isSpace skip
  let start ← here
  let digits ← readWhile Char.isDigit skipSpaced
  let stretch ← since start
  let _ ← readWhile isSpace skipSpaced
  let count := digits.foldl (fun count c => 10 * count + (c.toNat - '0'.toNat)) 0
  if digits.isEmpty then return .error ⟨.countMissing, stretch, none⟩
  else if maxCount < count then return .error ⟨.decimalTooLarge, stretch, none⟩
  else return .ok count

def ofExcept {α : Type} : Except PlacedFault α → Reader α
  | .ok value => return value
  | .error fault => throw fault

/-- How often something is repeated, between braces: at least, and at most if that is limited. -/
def readCounts : Reader (Nat × Option Nat) := do
  let start ← here
  let goOn : Reader Unit := do
    skipSpaced
    if ← atEnd then fail .countOpen (← since start)
  goOn
  let least ← readCount
  if ← atEnd then fail .countOpen (← since start)
  let counts ←
    if (← next?) = some ',' then do
      goOn
      if (← next?) = some '}' then pure (← ofExcept least, none)
      else do
        let least ← ofExcept least
        pure (least, some (← ofExcept (← readCount)))
    else do
      let least ← ofExcept least
      pure (least, some least)
  if (← next?) ≠ some '}' then fail .countOpen (← since start)
  skipSpaced
  if (← next?) = some '?' then skip
  let stretch ← since start
  if counts.2.any (· < counts.1) then fail .countRange stretch
  return counts

/-- How often something is repeated by a sign, which may be followed by a question mark. -/
def readRepetition : Char → Reader (Nat × Option Nat)
  | '{' => readCounts
  | c => do
    skip
    if (← next?) = some '?' then skip
    return match c with
      | '?' => (0, some 1)
      | '*' => (0, none)
      | _ => (1, none)

/-- The signs between a question mark and a colon or a bracket, with where they are; a hyphen is no
flag. They are held backward. -/
abbrev FlagSigns := List (Option Flag × Stretch)

/-- Another sign, which may not be there already. -/
def pushSign (signs : FlagSigns) (sign : Option Flag) (cause : FaultCause) : Reader FlagSigns := do
  let stretch ← nextStretch
  match signs.lookup sign with
  | some first => throw ⟨cause, stretch, some first⟩
  | none =>
    skip
    if ← atEnd then fail .flagEnd (.point (← here))
    return (sign, stretch) :: signs

/-- Flags after a hyphen are cleared. -/
def changesOf (set : Bool) : FlagSigns → FlagChanges
  | [] => []
  | (none, _) :: rest => changesOf false rest
  | (some flag, _) :: rest => (flag, set) :: changesOf set rest

def readFlags : Reader FlagChanges := do
  let step (signs : FlagSigns) : Reader FlagSigns := do
    match ← next? with
    | none | some ':' | some ')' => return signs
    | some '-' => pushSign signs none .negationAgain
    | some c =>
      match Flag.ofLetter? c with
      | none => fail .flagUnknown (← nextStretch)
      | some flag => pushSign signs (some flag) .flagAgain
  let signs ← repeatStep step []
  if let (none, stretch) :: _ := signs then fail .negationLast stretch
  return changesOf true signs.reverse

/-- Whether the name of a group may go on with a character, or begin with it. -/
def isNameChar (first : Bool) (c : Char) : Bool :=
  c = '_' || if first then isAlphabetic c else isAlphanumeric c || c = '.' || c = '[' || c = ']'

/-- The name of a group, which is given only once. -/
def readName : Reader Unit := do
  let start ← here
  let step (taken : List Char) : Reader (List Char) := do
    match ← next? with
    | none | some '>' => return taken
    | some c =>
      if !isNameChar taken.isEmpty c then fail .nameLetter (← nextStretch)
      skip
      return c :: taken
  let name := String.ofList (← repeatStep step []).reverse
  let stretch ← since start
  if ← atEnd then fail .nameEnd (.point (← here))
  skip
  if name.isEmpty then fail .nameEmpty stretch
  let progress ← get
  match progress.names.lookup name with
  | some first => throw ⟨.nameAgain, stretch, some first⟩
  | none => set { progress with names := (name, stretch) :: progress.names }

/-- What an opening bracket begins. -/
inductive Opening where
  /-- Flags for the rest of the group that it is in. -/
  | flags (tree : Tree) (changes : FlagChanges)
  | group (changes : FlagChanges)
  deriving Repr

def readOpeningOf (bracket : Stretch) : Reader Opening := do
  skip
  skipSpace
  if ← skipOneOf ["?=", "?!", "?<=", "?<!"] then fail .lookAround (← since bracket.start)
  let inner ← here
  if ← skipOneOf ["?P<", "?<"] then
    readName
    return .group []
  if !(← skipText "?") then return .group []
  if ← atEnd then fail .groupOpen bracket
  let changes ← readFlags
  let closed := (← next?) = some ')'
  skip
  if !closed then return .group changes
  if changes.isEmpty then fail .nothingToRepeat (.point inner)
  return .flags (.flags (← since bracket.start) changes) changes

/-- What was read of a group or of the whole pattern: the trees of its last branch and the branches
before that, held backward. -/
structure Level where
  /-- Where the first branch begins. -/
  start : Mark
  branches : List Tree
  /-- Where the last branch begins. -/
  branchStart : Mark
  trees : List Tree
  deriving Repr

namespace Level

def startAt (mark : Mark) : Level := ⟨mark, [], mark, []⟩

def push (level : Level) (tree : Tree) : Level := { level with trees := tree :: level.trees }

/-- The last branch, which ends at a place. -/
def branch (level : Level) (stop : Mark) : Tree :=
  .ofSequence ⟨level.branchStart, stop⟩ level.trees.reverse

/-- All that was read, up to a place. -/
def tree (level : Level) (stop : Mark) : Tree :=
  if level.branches.isEmpty then level.branch stop
  else .either ⟨level.start, stop⟩ (level.branch stop :: level.branches).reverse

end Level

structure OpenGroup where
  outer : Level
  bracket : Stretch
  changes : FlagChanges
  /-- Whether white space means nothing around the group. -/
  spaced : Bool
  deriving Repr

structure TreeProgress where
  level : Level
  /-- The groups that are open, the innermost first. -/
  groups : List OpenGroup
  deriving Repr

namespace TreeProgress

def push (state : TreeProgress) (tree : Tree) : TreeProgress :=
  { state with level := state.level.push tree }

end TreeProgress

/-- From now on white space means nothing, or something, if the changes say so. -/
def changeSpacing (changes : FlagChanges) : Reader Unit :=
  modify fun progress =>
    { progress with spaced := (changes.lookup .spaced).getD progress.spaced }

def readGroup (state : TreeProgress) : Reader TreeProgress := do
  let bracket ← nextStretch
  match ← readOpeningOf bracket with
  | .flags tree changes =>
    changeSpacing changes
    return state.push tree
  | .group changes =>
    let group : OpenGroup := ⟨state.level, bracket, changes, (← get).spaced⟩
    changeSpacing changes
    return ⟨.startAt (← here), group :: state.groups⟩

def closeGroup (state : TreeProgress) : Reader TreeProgress := do
  match state.groups with
  | [] => fail .groupClosed (← nextStretch)
  | group :: groups =>
    let tree := state.level.tree (← here)
    modify fun progress => { progress with spaced := group.spaced }
    skip
    let stretch ← since group.bracket.start
    return ⟨group.outer.push (.group stretch group.changes tree), groups⟩

def readBranch (state : TreeProgress) : Reader TreeProgress := do
  let branches := state.level.branch (← here) :: state.level.branches
  skip
  return { state with level := { state.level with branches, branchStart := ← here, trees := [] } }

/-- Repeats the last tree. Flags cannot be repeated. -/
def repeatLast (state : TreeProgress) (sign : Char) : Reader TreeProgress := do
  match state.level.trees with
  | [] | .flags .. :: _ | .empty _ :: _ => fail .nothingToRepeat (.point (← here))
  | tree :: trees =>
    let (least, most) ← readRepetition sign
    let stretch ← since tree.stretch.start
    return { state with
      level := { state.level with trees := .repeated stretch least most tree :: trees } }

/-- What a character is if it begins nothing. -/
def plainTree (stretch : Stretch) : Char → Tree
  | '.' => .dot stretch
  | '^' => .assertion stretch .lineStart
  | '$' => .assertion stretch .lineEnd
  | c => .literal ⟨stretch, c, false⟩

/-- Reads what is next in a pattern. -/
def readStep (state : TreeProgress) : Reader TreeProgress := do
  skipSpace
  match ← next? with
  | none => return state
  | some '(' => readGroup state
  | some ')' => closeGroup state
  | some '|' => readBranch state
  | some '[' => return state.push (← readSet)
  | some '\\' => return state.push (← readEscape)
  | some c =>
    if c = '?' || c = '*' || c = '+' || c = '{' then repeatLast state c
    else
      let stretch ← nextStretch
      skip
      return state.push (plainTree stretch c)

namespace SetTree

mutual

/-- The stretch of the first part that is nested too deep, in a set that `depth` parts are
around. -/
def tooDeep? (depth : Nat) : SetTree → Option Stretch
  | bracketed stretch _ inner =>
    if nestingLimit ≤ depth then some stretch else inner.tooDeep? (depth + 1)
  | union stretch items =>
    if items.isEmpty then none
    else if nestingLimit ≤ depth then some stretch
    else anyTooDeep? (depth + 1) items
  | operation stretch _ left right =>
    if nestingLimit ≤ depth then some stretch
    else (left.tooDeep? (depth + 1)).or (right.tooDeep? (depth + 1))
  | literal _ | range .. | named .. | letter .. | property .. => none

def anyTooDeep? (depth : Nat) : List SetTree → Option Stretch
  | [] => none
  | set :: sets => (set.tooDeep? depth).or (anyTooDeep? depth sets)

end

end SetTree

namespace Tree

mutual

/-- The stretch of the first part that is nested too deep, in a tree that `depth` parts are
around. -/
def tooDeep? (depth : Nat) : Tree → Option Stretch
  | set stretch _ inner =>
    if nestingLimit ≤ depth then some stretch else inner.tooDeep? (depth + 1)
  | repeated stretch _ _ tree | group stretch _ tree =>
    if nestingLimit ≤ depth then some stretch else tree.tooDeep? (depth + 1)
  | either stretch trees | sequence stretch trees =>
    if nestingLimit ≤ depth then some stretch else anyTooDeep? (depth + 1) trees
  | empty _ | flags .. | literal _ | dot _ | assertion .. | letter .. | property .. => none

def anyTooDeep? (depth : Nat) : List Tree → Option Stretch
  | [] => none
  | tree :: trees => (tree.tooDeep? depth).or (anyTooDeep? depth trees)

end

/-- The tree of the whole pattern. -/
def reader : Reader Tree := do
  let state ← repeatStep readStep ⟨.startAt (← here), []⟩
  match state.groups with
  | innermost :: _ => fail .groupOpen innermost.bracket
  | [] =>
    let tree := state.level.tree (← here)
    match tree.tooDeep? 0 with
    | some stretch => fail .nesting stretch
    | none => return tree

/-- The tree of a pattern, or the first fault in it. -/
def ofText (text : String) : Except PlacedFault Tree := do
  return (← reader.run (.start text.toList)).1

end Tree

end ScriptFront.Pattern
