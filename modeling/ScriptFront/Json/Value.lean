import ScriptFront.Number.Text

/-!
# JSON values and their text

A value is written without white space, or with each member and element on a line of its own,
indented by two spaces for each level. Members are written in the order in which they are given.
Both texts differ in layout only: one writer serves both, with a `Layout` that says what goes
between the parts.

In a string a quote, a backslash and the control characters are escaped, and no other character. A
number that is not finite has no text in JSON and is written as `null`.
-/
namespace ScriptFront

inductive Json where
  | null
  | bool (value : Bool)
  | natural (value : Nat)
  | real (value : Binary64)
  | string (value : String)
  | array (items : List Json)
  | object (members : List (String × Json))

namespace Json

/-- The digits and the letters from `a` on. -/
def hexDigit (value : Nat) : Char :=
  if value < 10 then Char.ofNat ('0'.toNat + value) else Char.ofNat ('a'.toNat + (value - 10))

def escaped (c : Char) : List Char :=
  if c = '"' then ['\\', '"']
  else if c = '\\' then ['\\', '\\']
  else if c = '\x08' then ['\\', 'b']
  else if c = '\x0c' then ['\\', 'f']
  else if c = '\n' then ['\\', 'n']
  else if c = '\r' then ['\\', 'r']
  else if c = '\t' then ['\\', 't']
  else if c.toNat < 32 then
    ['\\', 'u', '0', '0', hexDigit (c.toNat / 16), hexDigit (c.toNat % 16)]
  else [c]

def quotedBefore (text : String) (after : List Char) : List Char :=
  '"' :: (text.toList.flatMap escaped ++ '"' :: after)

/-- The text of a string value. -/
def quoted (text : String) : String := String.ofList (quotedBefore text [])

inductive Layout where
  | compact | indented
  deriving DecidableEq, Repr

namespace Layout

/-- What goes before a part that is `depth` levels deep. -/
def breakBefore (layout : Layout) (depth : Nat) (after : List Char) : List Char :=
  match layout with
  | compact => after
  | indented => '\n' :: (List.replicate (2 * depth) ' ' ++ after)

/-- What goes between a key and its value. -/
def colonBefore (layout : Layout) (after : List Char) : List Char :=
  match layout with
  | compact => ':' :: after
  | indented => ':' :: ' ' :: after

end Layout

mutual

/-- The text of a value that stands `depth` levels deep, before a given text. -/
def writtenBefore (layout : Layout) (depth : Nat) : Json → List Char → List Char
  | null, after => "null".toList ++ after
  | bool value, after => (if value then "true" else "false").toList ++ after
  | natural value, after => (toString value).toList ++ after
  | real value, after =>
    (if value.isFinite then value.exchangeText else "null".toList) ++ after
  | string value, after => quotedBefore value after
  | array [], after => '[' :: ']' :: after
  | array (item :: items), after =>
    '[' :: layout.breakBefore (depth + 1) (item.writtenBefore layout (depth + 1)
      (itemsBefore layout (depth + 1) items (layout.breakBefore depth (']' :: after))))
  | object [], after => '\x7b' :: '\x7d' :: after
  | object ((key, value) :: members), after =>
    '\x7b' :: layout.breakBefore (depth + 1) (quotedBefore key
      (layout.colonBefore (value.writtenBefore layout (depth + 1)
        (membersBefore layout (depth + 1) members (layout.breakBefore depth ('\x7d' :: after))))))

/-- The elements after the first, each with the comma before it. -/
def itemsBefore (layout : Layout) (depth : Nat) : List Json → List Char → List Char
  | [], after => after
  | item :: items, after =>
    ',' :: layout.breakBefore depth (item.writtenBefore layout depth
      (itemsBefore layout depth items after))

/-- The members after the first, each with the comma before it. -/
def membersBefore (layout : Layout) (depth : Nat) : List (String × Json) → List Char → List Char
  | [], after => after
  | (key, value) :: members, after =>
    ',' :: layout.breakBefore depth (quotedBefore key
      (layout.colonBefore (value.writtenBefore layout depth
        (membersBefore layout depth members after))))

end

def compact (value : Json) : String := String.ofList (value.writtenBefore .compact 0 [])

def indented (value : Json) : String := String.ofList (value.writtenBefore .indented 0 [])

end Json

end ScriptFront
