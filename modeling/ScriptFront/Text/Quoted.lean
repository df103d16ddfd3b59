import ScriptFront.Text.Invisible

/-!
# Quoted texts

How a message shows a text that it speaks of: in double quotes, on one line, with everything that
could not be read off a page written as an escape.
-/
namespace ScriptFront

/-- The hexadecimal digits of a number, without leading zeros. -/
def hexadecimal (value : Nat) : List Char := Nat.toDigits 16 value

def shownChar (c : Char) : List Char :=
  if c = '\x00' then ['\\', '0']
  else if c = '\t' then ['\\', 't']
  else if c = '\r' then ['\\', 'r']
  else if c = '\n' then ['\\', 'n']
  else if c = '"' then ['\\', '"']
  else if c = '\\' then ['\\', '\\']
  else if isInvisible c then '\\' :: 'u' :: '\x7b' :: (hexadecimal c.toNat ++ ['\x7d'])
  else [c]

def shownText (text : String) : String :=
  String.ofList ('"' :: (text.toList.flatMap shownChar ++ ['"']))

end ScriptFront
