import ScriptFront.Number.Binary64
import ScriptFront.Syntax.Operator

/-!
# Syntax trees

An expression is a literal or an operator with its operands, a statement shows or evaluates an
expression, and a program is a sequence of statements. Where an expression could not be read, `null`
stands in its place, so that a tree says something about its source only if that was free of errors.
-/
namespace ScriptFront

inductive Expression where
  | binary (left : Expression) (operator : Operator) (right : Expression)
  | unary (operator : Operator) (operand : Expression)
  | bool (value : Bool)
  | null
  | number (value : Binary64)
  | string (value : String)
  deriving DecidableEq, Repr

namespace Expression

/-- The nodes of the tree, counting the root. -/
def nodeCount : Expression → Nat
  | binary left _ right => 1 + left.nodeCount + right.nodeCount
  | unary _ operand => 1 + operand.nodeCount
  | _ => 1

/-- The same tree, with numbers compared as values. -/
def sameValue : Expression → Expression → Bool
  | binary left operator right, binary left' operator' right' =>
    operator == operator' && left.sameValue left' && right.sameValue right'
  | unary operator operand, unary operator' operand' =>
    operator == operator' && operand.sameValue operand'
  | bool value, bool value' => value == value'
  | null, null => true
  | number value, number value' => value.sameValue value'
  | string value, string value' => value == value'
  | _, _ => false

end Expression

inductive Statement where
  | print (expression : Expression)
  | evaluate (expression : Expression)
  deriving DecidableEq, Repr

namespace Statement

def expression : Statement → Expression
  | print expression => expression
  | evaluate expression => expression

def sameValue : Statement → Statement → Bool
  | print left, print right => left.sameValue right
  | evaluate left, evaluate right => left.sameValue right
  | _, _ => false

end Statement

/-- The statements of a source in the order in which they are written. -/
structure Program where
  statements : List Statement
  deriving DecidableEq, Repr

namespace Program

def size (program : Program) : Nat := program.statements.length

def isEmpty (program : Program) : Bool := program.statements.isEmpty

end Program

end ScriptFront
