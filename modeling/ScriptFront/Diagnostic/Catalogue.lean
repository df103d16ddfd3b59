import ScriptFront.Token.Scan

/-!
# The catalogue of diagnostics

Every problem that reading a source can meet has a message and a code that stays the same when the
message is looked up. Codes from 1000 on belong to the scanner, from 1100 on to the parser.
-/
namespace ScriptFront

inductive Severity where
  | warning | error
  deriving DecidableEq, Repr

def Severity.name : Severity → String
  | warning => "warning"
  | error => "error"

/-- How a report names the severity. -/
def Severity.label : Severity → String
  | warning => "Warning"
  | error => "Error"

inductive Diagnostic where
  | unexpectedCharacter
  | unterminatedString
  | expectedExpression
  | expectedSemicolonAfterValue
  | expectedSemicolonAfterExpression
  | expectedEndOfInput
  | invalidNumber
  | nestsTooDeeply
  deriving DecidableEq, Repr

namespace Diagnostic

def all : List Diagnostic :=
  [unexpectedCharacter, unterminatedString, expectedExpression, expectedSemicolonAfterValue,
    expectedSemicolonAfterExpression, expectedEndOfInput, invalidNumber, nestsTooDeeply]

def code : Diagnostic → Nat
  | unexpectedCharacter => 1001
  | unterminatedString => 1002
  | expectedExpression => 1100
  | expectedSemicolonAfterValue => 1101
  | expectedSemicolonAfterExpression => 1102
  | expectedEndOfInput => 1103
  | invalidNumber => 1104
  | nestsTooDeeply => 1105

def message : Diagnostic → String
  | unexpectedCharacter => ScanFault.unexpectedCharacter.message
  | unterminatedString => ScanFault.unterminatedString.message
  | expectedExpression => "Expected expression."
  | expectedSemicolonAfterValue => "Expected ';' after value."
  | expectedSemicolonAfterExpression => "Expected ';' after expression."
  | expectedEndOfInput => "Expected end of input."
  | invalidNumber => "Invalid number literal."
  | nestsTooDeeply => "Expression nests too deeply."

def severity : Diagnostic → Severity := fun _ => .error

/-- The diagnostic with exactly this message. -/
def ofMessage? (message : String) : Option Diagnostic :=
  all.find? (·.message == message)

/-- The code of a message; a message outside the catalogue has the code 0. -/
def codeOf (message : String) : Nat :=
  match ofMessage? message with
  | some diagnostic => diagnostic.code
  | none => 0

theorem codeOf_message (diagnostic : Diagnostic) :
    codeOf diagnostic.message = diagnostic.code := by
  cases diagnostic <;> decide

end Diagnostic

end ScriptFront
