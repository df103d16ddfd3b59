import ScriptFront.Text.Span
import ScriptFront.Token.Kind

/-!
# Tokens

A token says what stands where in a source. Its lexeme is the text that it covers, but a token of
kind `error` covers text that is no token and carries the reason in place of the text.
-/
namespace ScriptFront

/-- What stands in a source, and where. Places and lines are natural numbers: a source is taken to
have fewer than `2 ^ 32` characters, so that none of them would be cut off in 32 bits. -/
structure Token where
  kind : Kind
  lexeme : String
  /-- The characters of the source before the token. -/
  start : Nat
  /-- The characters that the token covers. -/
  length : Nat
  /-- The line, counted from 1, on which the token ends. -/
  line : Nat
  deriving DecidableEq, Repr

namespace Token

def span (token : Token) : Span := ⟨token.start, token.length⟩

/-- The first position after the token. -/
def stop (token : Token) : Nat := token.start + token.length

def isError (token : Token) : Bool := token.kind == .error

def isEnd (token : Token) : Bool := token.kind == .endOfInput

end Token

end ScriptFront
