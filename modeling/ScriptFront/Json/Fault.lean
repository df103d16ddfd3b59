import ScriptFront.Number.Text
import ScriptFront.Text.Quoted

/-!
# Faults in JSON texts

Why a text is not the value that is read from it, and where. While reading, a fault is placed by the
bytes that are left; the line and the column are worked out once, for the message.
-/
namespace ScriptFront.Json

/-- What stands where something else was expected. -/
inductive Found where
  | null
  | bool (value : Bool)
  | integer (value : Int)
  | real (value : Binary64)
  | string (value : String)
  | array
  | object
  deriving DecidableEq, Repr

def Found.text : Found → String
  | null => "null"
  | bool value => "boolean `" ++ (if value then "true" else "false") ++ "`"
  | integer value => "integer `" ++ toString value ++ "`"
  | real value => "floating point `" ++ String.ofList value.exchangeText ++ "`"
  | string value => "string " ++ shownText value
  | array => "sequence"
  | object => "map"

inductive Cause where
  | endInValue | endInList | endInObject | endInString
  | expectedValue | expectedWord | expectedColon | expectedListEnd | expectedObjectEnd
  | trailingCharacters | trailingComma | keyNotString
  | controlCharacter | invalidEscape | unpairedSurrogate | endInSurrogate
  | invalidNumber | numberOutOfRange
  | wrongType (found : Found) (expected : String)
  | wrongLength (length : Nat) (expected : String)
  | unknownName (name : String) (known : List String)
  | repeatedField (name : String)
  deriving DecidableEq, Repr

/-- The text ended too early, it says something else than was expected, or it is no JSON. -/
inductive CauseClass where
  | early | data | malformed
  deriving DecidableEq, Repr

namespace Cause

def classify : Cause → CauseClass
  | endInValue | endInList | endInObject | endInString => .early
  | wrongType .. | wrongLength .. | unknownName .. | repeatedField .. => .data
  | _ => .malformed

def message : Cause → String
  | endInValue => "EOF while parsing a value"
  | endInList => "EOF while parsing a list"
  | endInObject => "EOF while parsing an object"
  | endInString => "EOF while parsing a string"
  | expectedValue => "expected value"
  | expectedWord => "expected ident"
  | expectedColon => "expected `:`"
  | expectedListEnd => "expected `,` or `]`"
  | expectedObjectEnd => "expected `,` or `\x7d`"
  | trailingCharacters => "trailing characters"
  | trailingComma => "trailing comma"
  | keyNotString => "key must be a string"
  | controlCharacter => "control character (\\u0000-\\u001F) found while parsing a string"
  | invalidEscape => "invalid escape"
  | unpairedSurrogate => "lone leading surrogate in hex escape"
  | endInSurrogate => "unexpected end of hex escape"
  | invalidNumber => "invalid number"
  | numberOutOfRange => "number out of range"
  | wrongType found expected => "invalid type: " ++ found.text ++ ", expected " ++ expected
  | wrongLength length expected =>
    "invalid length " ++ toString length ++ ", expected " ++ expected
  | unknownName name known =>
    "unknown variant `" ++ name ++ "`, expected one of "
      ++ ", ".intercalate (known.map fun name => "`" ++ name ++ "`")
  | repeatedField name => "duplicate field `" ++ name ++ "`"

end Cause

/-- A cause and the bytes of the text that were not read when it was met. -/
structure Fault where
  cause : Cause
  unread : Nat
  deriving DecidableEq, Repr

def byteCount (text : List Char) : Nat := text.foldl (fun count c => count + c.utf8Size) 0

namespace Fault

/-- A fault in front of the rest of a text. -/
def before (cause : Cause) (rest : List Char) : Fault := ⟨cause, byteCount rest⟩

/-- A fault at the first byte of the rest, which counts as read. At the end there is none. -/
def upon (cause : Cause) (rest : List Char) : Fault := ⟨cause, byteCount rest - 1⟩

end Fault

/-- A fault with its line, counted from 1, and the bytes of that line that were read. -/
structure PlacedFault where
  cause : Cause
  line : Nat
  column : Nat
  deriving DecidableEq, Repr

namespace PlacedFault

/-- The line and the column after some bytes of a text, going on from a line and a column. -/
def advance (line column : Nat) : Nat → List Char → Nat × Nat
  | _, [] => (line, column)
  | bytes, c :: rest =>
    if bytes < c.utf8Size then (line, column + bytes)
    else if c = '\n' then advance (line + 1) 0 (bytes - 1) rest
    else advance line (column + c.utf8Size) (bytes - c.utf8Size) rest

def ofFault (text : List Char) (fault : Fault) : PlacedFault :=
  let (line, column) := advance 1 0 (byteCount text - fault.unread) text
  ⟨fault.cause, line, column⟩

def message (fault : PlacedFault) : String :=
  fault.cause.message ++ " at line " ++ toString fault.line ++ " column " ++ toString fault.column

end PlacedFault

end ScriptFront.Json
