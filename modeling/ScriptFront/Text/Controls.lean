/-!
# Texts without control sequences

A text for a terminal may hold sequences that move its cursor or change its colours. Where a text
goes elsewhere they are taken out, and with them all control characters that are no white space.

White space inside a sequence is shown, and what follows it is shown too, up to the next control
character. There the sequence goes on.
-/
namespace ScriptFront

/-- Where in a control sequence a text stands. -/
inductive ControlStage where
  | ground | escape | escapeIntermediate
  /-- A sequence with parameters, up to the letter that names it. -/
  | parameters
  | deviceEntry | deviceParameters | deviceIntermediate
  /-- A text for the device, up to a string terminator. -/
  | deviceText
  /-- A text for the system, up to a bell. -/
  | systemText
  deriving DecidableEq, Repr

namespace ControlStage

def inRange (low high c : Char) : Bool := low ≤ c && c ≤ high

/-- Whether one of the bytes of a character after its first is that of the string terminator. -/
def endsDeviceText (c : Char) : Bool :=
  let code := c.toNat
  128 ≤ code && code % 64 == 28 || 2048 ≤ code && code / 64 % 64 == 28
    || 65536 ≤ code && code / 4096 % 64 == 28

/-- The stage after a character. Two controls cancel a sequence, and an escape begins a new one. -/
def next (stage : ControlStage) (c : Char) : ControlStage :=
  if c = '\x18' ∨ c = '\x1a' then ground
  else if c = '\x1b' then escape
  else
    match stage with
    | ground => ground
    | escape =>
      if inRange ' ' '/' c then escapeIntermediate
      else if c = '[' then parameters
      else if c = ']' then systemText
      else if c = 'P' then deviceEntry
      else if c = 'X' ∨ c = '^' ∨ c = '_' then deviceText
      else if inRange '0' '~' c then ground
      else escape
    | escapeIntermediate => if inRange '0' '~' c then ground else escapeIntermediate
    | parameters => if inRange '@' '~' c then ground else parameters
    | deviceEntry =>
      if inRange ' ' '/' c then deviceIntermediate
      else if inRange '0' '?' c then deviceParameters
      else if inRange '@' '~' c then deviceText
      else deviceEntry
    | deviceParameters =>
      if inRange ' ' '/' c then deviceIntermediate
      else if inRange '<' '~' c then deviceText
      else deviceParameters
    | deviceIntermediate => if inRange '0' '~' c then deviceText else deviceIntermediate
    | deviceText => if endsDeviceText c then ground else deviceText
    | systemText => if c = '\x07' then ground else systemText

def isShownControl (c : Char) : Bool := c = '\t' || c = '\n' || c = '\x0c' || c = '\r'

/-- Whether a character is shown at a stage. -/
def shows (stage : ControlStage) (c : Char) : Bool :=
  match stage with
  | ground => inRange ' ' '~' c || 128 ≤ c.toNat || isShownControl c
  | escape | escapeIntermediate | parameters => isShownControl c
  | _ => false

/-- What is shown of a text. While `showing`, characters are judged as outside of a sequence. -/
def shown (stage : ControlStage) (showing : Bool) : List Char → List Char
  | [] => []
  | c :: rest =>
    if showing && ground.shows c then
      c :: shown (if c.toNat < 128 then stage else ground) true rest
    else if stage.shows c then c :: shown (stage.next c) true rest
    else shown (stage.next c) false rest

end ControlStage

/-- The text without control sequences. -/
def withoutControls (text : String) : String :=
  String.ofList (ControlStage.ground.shown false text.toList)

end ScriptFront
