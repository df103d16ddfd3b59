import ScriptFront.Json.Reader
import ScriptFront.Text.Hexadecimal

/-!
# Reading strings

A string ends at the next quote that is not escaped. A string that is put to use must spell out
characters: an escaped half of a surrogate pair needs the other half after it. A string that is only
passed over need not.
-/
namespace ScriptFront.Json

/-- What a letter after a backslash stands for. -/
def escapeMeaning? : Char → Option Char
  | '"' => some '"'
  | '\\' => some '\\'
  | '/' => some '/'
  | 'b' => some '\x08'
  | 'f' => some '\x0c'
  | 'n' => some '\n'
  | 'r' => some '\r'
  | 't' => some '\t'
  | _ => none

def isHighSurrogate (code : Nat) : Bool := 0xD800 ≤ code && code < 0xDC00

def isLowSurrogate (code : Nat) : Bool := 0xDC00 ≤ code && code < 0xE000

/-- The code point of a surrogate pair. -/
def pairedCode (high low : Nat) : Nat := 0x10000 + (high - 0xD800) * 0x400 + (low - 0xDC00)

namespace Reader

/-- The four hexadecimal digits of an escape. Four bytes are taken before they are looked at. -/
def hexCode : Reader Nat := do
  let text ← ahead
  if byteCount (text.take 4) < 4 then fail ⟨.endInString, 0⟩
  else
    match hexNumber? (text.take 4) with
    | some code => do
      drop 4
      return code
    | none => fail ⟨.invalidEscape, byteCount text - 4⟩

/-- The character between the halves of a surrogate pair. -/
def surrogateLink (expected : Char) : Reader Unit := do
  match ← ahead with
  | [] => failBefore .endInString
  | c :: _ => if c = expected then drop 1 else failUpon .endInSurrogate

/-- The low half of a surrogate pair, escaped. -/
def lowSurrogate : Reader Nat := do
  surrogateLink '\\'
  surrogateLink 'u'
  let code ← hexCode
  if isLowSurrogate code then return code else failBefore .unpairedSurrogate

/-- The character of an escape by code, of one that must spell out a character if `used`. -/
def codeEscape (used : Bool) : Reader Char := do
  let code ← hexCode
  if !used then return Char.ofNat code
  else if isLowSurrogate code then failBefore .unpairedSurrogate
  else if isHighSurrogate code then return Char.ofNat (pairedCode code (← lowSurrogate))
  else return Char.ofNat code

/-- What follows a backslash. -/
def escape (used : Bool) : Reader Char := do
  match ← ahead with
  | [] => failBefore .endInString
  | 'u' :: _ => do
    drop 1
    codeEscape used
  | c :: _ =>
    match escapeMeaning? c with
    | some meaning => do
      drop 1
      return meaning
    | none => failUpon .invalidEscape

/-- The rest of a string after the characters read so far, the latest of which comes first. -/
def stringOnto (used : Bool) (read : List Char) (text : List Char) :
    Except Fault (String × List Char) :=
  match text with
  | [] => .error (.before .endInString [])
  | '"' :: rest => .ok (String.ofList read.reverse, rest)
  | '\\' :: rest =>
    match _escaped : (escape used).run rest with
    | .ok (c, after) => stringOnto used (c :: read) after
    | .error fault => .error fault
  | c :: rest =>
    if c.toNat < 32 then
      .error (if used then .upon .controlCharacter (c :: rest)
        else .before .controlCharacter (c :: rest))
    else stringOnto used (c :: read) rest
termination_by text.length
decreasing_by
  · exact Nat.lt_succ_of_le ((escape used).shrinks _escaped)
  · exact Nat.lt_succ_self _

theorem stringOnto_shrinks {used : Bool} {read text rest : List Char} {value : String}
    (done : stringOnto used read text = .ok (value, rest)) : rest.length ≤ text.length := by
  fun_induction stringOnto used read text with
  | case1 => cases done
  | case2 => cases done; exact Nat.le_succ _
  | case3 read rest' c after escaped onward =>
    exact Nat.le_trans (onward done) (Nat.le_succ_of_le ((escape used).shrinks escaped))
  | case4 => cases done
  | case5 => cases done
  | case6 read c rest' _ _ _ onward => exact Nat.le_succ_of_le (onward done)

/-- A string, after its opening quote. -/
def string (used : Bool) : Reader String := ⟨stringOnto used [], stringOnto_shrinks⟩

end Reader

end ScriptFront.Json
