import ScriptFront.Text.Padding
import ScriptFront.Token.Scan

/-!
# Token listings

A listing has an entry for each token, with its kind and its lexeme. The first token of a source
line is preceded by the line's number, the others by a bar.
-/
namespace ScriptFront

/-- The entry of a token that follows a token on line `previous`. -/
def Token.entry (previous : Nat) (token : Token) : String :=
  let margin := if token.line = previous then "   | " else alignRight 4 (toString token.line) ++ " "
  margin ++ token.kind.name ++ " '" ++ token.lexeme ++ "'\n"

/-- The entries of tokens, each with the line of the token before it. No line has the number 0. -/
def listingOf (tokens : List Token) : String :=
  String.join (List.zipWith Token.entry (0 :: tokens.map Token.line) tokens)

def listing (source : String) : String := listingOf (tokenize source)

end ScriptFront
