import ScriptFront.Diagnostic.Catalogue
import ScriptFront.Json.Value

/-!
# Issues

An issue is a message about a token. Its code follows from the message, so that an issue cannot
carry a code that is not its own.
-/
namespace ScriptFront

structure Issue where
  severity : Severity
  message : String
  /-- The token that is blamed. -/
  token : Token
  deriving DecidableEq, Repr

namespace Issue

def code (issue : Issue) : Nat := Diagnostic.codeOf issue.message

def isError (issue : Issue) : Bool := issue.severity == .error

/-- Where the issue is. A scanner error has no text of its own to point at. -/
def location (issue : Issue) : String :=
  match issue.token.kind with
  | .endOfInput => " at end of file"
  | .error => ""
  | _ => " at '" ++ issue.token.lexeme ++ "'"

/-- The issue on one line, as in `[line 3] Error at 'x': message`. -/
def text (issue : Issue) : String :=
  "[line " ++ toString issue.token.line ++ "] " ++ issue.severity.label ++ issue.location
    ++ ": " ++ issue.message

end Issue

def Token.toJson (token : Token) : Json :=
  .object [("kind", .string token.kind.name), ("lexeme", .string token.lexeme),
    ("start", .natural token.start), ("length", .natural token.length),
    ("line", .natural token.line)]

def Issue.toJson (issue : Issue) : Json :=
  .object [("severity", .string issue.severity.name), ("code", .natural issue.code),
    ("message", .string issue.message), ("token", issue.token.toJson)]

end ScriptFront
