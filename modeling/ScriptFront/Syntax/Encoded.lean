import ScriptFront.Json.Value
import ScriptFront.Syntax.Tree

/-!
# Trees as JSON

Every node is an object that names its type. Operands and values stand under `value`; `null` has
none.
-/
namespace ScriptFront

def Expression.toJson : Expression → Json
  | binary left operator right =>
    .object [("type", .string "infix"),
      ("value", .object [("left", left.toJson), ("operator", .string operator.name),
        ("right", right.toJson)])]
  | unary operator operand =>
    .object [("type", .string "prefix"),
      ("value", .object [("operator", .string operator.name), ("right", operand.toJson)])]
  | bool value => .object [("type", .string "bool_literal"), ("value", .bool value)]
  | null => .object [("type", .string "null_literal")]
  | number value => .object [("type", .string "number_literal"), ("value", .real value)]
  | string value => .object [("type", .string "string_literal"), ("value", .string value)]

def Statement.toJson : Statement → Json
  | print expression =>
    .object [("type", .string "print"), ("expression", expression.toJson)]
  | evaluate expression =>
    .object [("type", .string "expression"), ("expression", expression.toJson)]

def Program.toJson (program : Program) : Json :=
  .object [("statements", .array (program.statements.map Statement.toJson))]

end ScriptFront
