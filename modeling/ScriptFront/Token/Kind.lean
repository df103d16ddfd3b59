/-!
# Kinds of tokens

A token is a punctuation mark, a keyword, a name, a literal, a report of text that is no token, or
the end of the input. Marks and keywords carry the table of their spellings, and a kind is numbered
by its place in the list of all kinds.
-/
namespace ScriptFront

/-- The punctuation marks and operators. -/
inductive Mark where
  | openParen | closeParen | openBrace | closeBrace | comma | dot | minus | plus | semicolon
  | slash | asterisk | exclamation | exclamationEquals | equals | equalsEquals
  | greaterThan | greaterThanEquals | lessThan | lessThanEquals
  deriving DecidableEq, Repr

namespace Mark

def all : List Mark :=
  [openParen, closeParen, openBrace, closeBrace, comma, dot, minus, plus, semicolon,
    slash, asterisk, exclamation, exclamationEquals, equals, equalsEquals,
    greaterThan, greaterThanEquals, lessThan, lessThanEquals]

/-- How the mark is written in a source. -/
def text : Mark → String
  | openParen => "("
  | closeParen => ")"
  | openBrace => "\x7b"
  | closeBrace => "\x7d"
  | comma => ","
  | dot => "."
  | minus => "-"
  | plus => "+"
  | semicolon => ";"
  | slash => "/"
  | asterisk => "*"
  | exclamation => "!"
  | exclamationEquals => "!="
  | equals => "="
  | equalsEquals => "=="
  | greaterThan => ">"
  | greaterThanEquals => ">="
  | lessThan => "<"
  | lessThanEquals => "<="

def name : Mark → String
  | openParen => "OpenParenToken"
  | closeParen => "CloseParenToken"
  | openBrace => "OpenBraceToken"
  | closeBrace => "CloseBraceToken"
  | comma => "CommaToken"
  | dot => "DotToken"
  | minus => "MinusToken"
  | plus => "PlusToken"
  | semicolon => "SemicolonToken"
  | slash => "SlashToken"
  | asterisk => "AsteriskToken"
  | exclamation => "ExclamationToken"
  | exclamationEquals => "ExclamationEqualsToken"
  | equals => "EqualsToken"
  | equalsEquals => "EqualsEqualsToken"
  | greaterThan => "GreaterThanToken"
  | greaterThanEquals => "GreaterThanEqualsToken"
  | lessThan => "LessThanToken"
  | lessThanEquals => "LessThanEqualsToken"

/-- A mark of two characters is one of a single character with `=` behind it. -/
theorem of_text_pair {first second : Char} (mark : Mark)
    (written : mark.text.toList = [first, second]) :
    first ∈ ['!', '=', '<', '>'] ∧ second = '=' := by
  cases mark <;> simp [text] at written
  all_goals
    obtain ⟨rfl, rfl⟩ := written
    decide

end Mark

/-- The reserved words. -/
inductive Keyword where
  | classWord | elseWord | falseWord | fnWord | forWord | ifWord | nullWord
  | printWord | returnWord | superWord | thisWord | trueWord | varWord | whileWord
  deriving DecidableEq, Repr

namespace Keyword

def all : List Keyword :=
  [classWord, elseWord, falseWord, fnWord, forWord, ifWord, nullWord,
    printWord, returnWord, superWord, thisWord, trueWord, varWord, whileWord]

def text : Keyword → String
  | classWord => "class"
  | elseWord => "else"
  | falseWord => "false"
  | fnWord => "fn"
  | forWord => "for"
  | ifWord => "if"
  | nullWord => "null"
  | printWord => "print"
  | returnWord => "return"
  | superWord => "super"
  | thisWord => "this"
  | trueWord => "true"
  | varWord => "var"
  | whileWord => "while"

def name : Keyword → String
  | classWord => "ClassKeyword"
  | elseWord => "ElseKeyword"
  | falseWord => "FalseKeyword"
  | fnWord => "FnKeyword"
  | forWord => "ForKeyword"
  | ifWord => "IfKeyword"
  | nullWord => "NullKeyword"
  | printWord => "PrintKeyword"
  | returnWord => "ReturnKeyword"
  | superWord => "SuperKeyword"
  | thisWord => "ThisKeyword"
  | trueWord => "TrueKeyword"
  | varWord => "VarKeyword"
  | whileWord => "WhileKeyword"

/-- The keyword that is written so. -/
def ofText? : String → Option Keyword
  | "class" => some classWord
  | "else" => some elseWord
  | "false" => some falseWord
  | "fn" => some fnWord
  | "for" => some forWord
  | "if" => some ifWord
  | "null" => some nullWord
  | "print" => some printWord
  | "return" => some returnWord
  | "super" => some superWord
  | "this" => some thisWord
  | "true" => some trueWord
  | "var" => some varWord
  | "while" => some whileWord
  | _ => none

/-- Whether a statement can begin with the word. Recovery from an error stops in front of these. -/
def startsStatement : Keyword → Bool
  | classWord | fnWord | forWord | ifWord | printWord | returnWord | varWord | whileWord => true
  | elseWord | falseWord | nullWord | superWord | thisWord | trueWord => false

end Keyword

inductive Kind where
  | mark (mark : Mark)
  | identifier
  | stringLiteral
  | numericLiteral
  | keyword (word : Keyword)
  | error
  | endOfInput
  deriving DecidableEq, Repr

namespace Kind

/-- All kinds, in the order by which they are compared. -/
def all : List Kind :=
  Mark.all.map mark ++ [identifier, stringLiteral, numericLiteral]
    ++ Keyword.all.map keyword ++ [error, endOfInput]

/-- The place of a kind among all kinds. -/
def number (kind : Kind) : Nat := all.idxOf kind

def name : Kind → String
  | mark m => m.name
  | identifier => "Identifier"
  | stringLiteral => "StringLiteral"
  | numericLiteral => "NumericLiteral"
  | keyword word => word.name
  | error => "ErrorToken"
  | endOfInput => "EndOfInputToken"

def ofName? (name : String) : Option Kind :=
  all.find? (·.name == name)

def isKeyword : Kind → Bool
  | keyword _ => true
  | _ => false

def startsStatement : Kind → Bool
  | keyword word => word.startsStatement
  | _ => false

def keywordText : Kind → Option String
  | keyword word => some word.text
  | _ => none

def markText : Kind → Option String
  | mark m => some m.text
  | _ => none

end Kind

end ScriptFront
