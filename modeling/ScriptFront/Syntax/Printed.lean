import ScriptFront.Number.Text
import ScriptFront.Syntax.Tree

/-!
# Printed trees

A tree is printed with each operator in front of its operands and parentheses around them, as in
`(plus 1 (star 2 3))`. Each printer puts its text before a given text; a tree is so printed in one
walk, however it leans.
-/
namespace ScriptFront

namespace Expression

def printedBefore : Expression → List Char → List Char
  | binary left operator right, after =>
    '(' :: (operator.name.toList
      ++ ' ' :: left.printedBefore (' ' :: right.printedBefore (')' :: after)))
  | unary operator operand, after =>
    '(' :: (operator.name.toList ++ ' ' :: operand.printedBefore (')' :: after))
  | bool value, after => (if value then "true" else "false").toList ++ after
  | null, after => "null".toList ++ after
  | number value, after => value.plainText ++ after
  | string value, after => '"' :: (value.toList ++ '"' :: after)

def printed (expression : Expression) : String := String.ofList (expression.printedBefore [])

end Expression

namespace Statement

def head : Statement → String
  | print _ => "print"
  | evaluate _ => "expression"

def printedBefore (statement : Statement) (after : List Char) : List Char :=
  '(' :: (statement.head.toList ++ ' ' :: statement.expression.printedBefore (')' :: after))

def printed (statement : Statement) : String := String.ofList (statement.printedBefore [])

end Statement

/-- A line for each statement. -/
def Program.printed (program : Program) : String :=
  String.ofList
    (program.statements.foldr (fun statement after => statement.printedBefore ('\n' :: after)) [])

end ScriptFront
