import Mathlib.Data.List.Forall2
import ScriptFront.Number.Literal
import ScriptFront.Syntax.Tree
import ScriptFront.Token.Basic

/-!
# The grammar

Which tokens a program is made of, said without a parser:

    program    = statement*
    statement  = "print" expression ";" | expression ";"
    expression = equality
    equality   = comparison (("!=" | "==") comparison)*
    comparison = term ((">" | ">=" | "<" | "<=") term)*
    term       = factor (("-" | "+") factor)*
    factor     = operand (("/" | "*") operand)*
    operand    = ("!" | "-") operand | "false" | "true" | "null" | number | string

Each rule is a relation between tokens and the tree they stand for. The four levels of binary
operators are one rule, `Derives`, over a list of levels with the loosest first; its operators
associate to the left. At most `maxPrefixes` operators stand in front of a literal.

Operators, tokens and levels are written out here as they are above (`PrefixAs`, `InfixAs`,
`levels`). That a parse goes by the same ones is proved of its own tables (`prefixAs_iff`,
`infixAs_iff`, `levels_eq`).

The literals of a tree are the literals among its tokens, one by one (`IsProgram.literals`).
-/
namespace ScriptFront

def Kind.isLiteral : Kind → Bool
  | .keyword .falseWord | .keyword .trueWord | .keyword .nullWord => true
  | .numericLiteral | .stringLiteral => true
  | _ => false

/-- The literals of the tree from left to right. -/
def Expression.literals : Expression → List Expression
  | binary left _ right => left.literals ++ right.literals
  | unary _ operand => operand.literals
  | literal => [literal]

namespace Grammar

inductive IsLiteral (token : Token) : Expression → Prop where
  | falseWord (kind : token.kind = .keyword .falseWord) : IsLiteral token (.bool false)
  | trueWord (kind : token.kind = .keyword .trueWord) : IsLiteral token (.bool true)
  | nullWord (kind : token.kind = .keyword .nullWord) : IsLiteral token .null
  | number {value : Binary64} (kind : token.kind = .numericLiteral)
      (read : literalValue? token.lexeme.toList = some value) : IsLiteral token (.number value)
  | string {value : String} (kind : token.kind = .stringLiteral)
      (quoted : token.lexeme.toList = '"' :: (value.toList ++ ['"'])) :
      IsLiteral token (.string value)

def maxPrefixes : Nat := 200

/-- The operators in front of an operand, and the tokens that they are written as. -/
inductive PrefixAs : Kind → Operator → Prop where
  | bang : PrefixAs (.mark .exclamation) .bang
  | minus : PrefixAs (.mark .minus) .minus

/-- The operators between operands, by their levels, and the tokens that they are written as. -/
inductive InfixAs : Level → Kind → Operator → Prop where
  | bangEqual : InfixAs .equality (.mark .exclamationEquals) .bangEqual
  | equalEqual : InfixAs .equality (.mark .equalsEquals) .equalEqual
  | greater : InfixAs .comparison (.mark .greaterThan) .greater
  | greaterEqual : InfixAs .comparison (.mark .greaterThanEquals) .greaterEqual
  | less : InfixAs .comparison (.mark .lessThan) .less
  | lessEqual : InfixAs .comparison (.mark .lessThanEquals) .lessEqual
  | minus : InfixAs .term (.mark .minus) .minus
  | plus : InfixAs .term (.mark .plus) .plus
  | slash : InfixAs .factor (.mark .slash) .slash
  | star : InfixAs .factor (.mark .asterisk) .star

/-- The levels of operators in an expression, the loosest first. -/
def levels : List Level := [.equality, .comparison, .term, .factor]

/-- A literal with so many operators in front of it. -/
inductive IsOperand : Nat → List Token → Expression → Prop where
  | literal {token : Token} {value : Expression} (isLiteral : IsLiteral token value) :
      IsOperand 0 [token] value
  | unary {token : Token} {operator : Operator} {count : Nat} {tokens : List Token}
      {operand : Expression} (isPrefix : PrefixAs token.kind operator)
      (isOperand : IsOperand count tokens operand) :
      IsOperand (count + 1) (token :: tokens) (.unary operator operand)

/-- Tokens and the tree that they stand for by the binary operators of these levels. -/
inductive Derives : List Level → List Token → Expression → Prop where
  | operand {count : Nat} {tokens : List Token} {operand : Expression}
      (few : count ≤ maxPrefixes) (isOperand : IsOperand count tokens operand) :
      Derives [] tokens operand
  | tighter {level : Level} {tighter : List Level} {tokens : List Token} {expression : Expression}
      (derives : Derives tighter tokens expression) : Derives (level :: tighter) tokens expression
  | binary {level : Level} {tighter : List Level} {token : Token} {operator : Operator}
      {before after : List Token} {left right : Expression}
      (derivesLeft : Derives (level :: tighter) before left)
      (isInfix : InfixAs level token.kind operator)
      (derivesRight : Derives tighter after right) :
      Derives (level :: tighter) (before ++ token :: after) (.binary left operator right)

abbrev IsExpression : List Token → Expression → Prop := Derives levels

inductive IsStatement : List Token → Statement → Prop where
  | print {word last : Token} {tokens : List Token} {expression : Expression}
      (isWord : word.kind = .keyword .printWord) (isExpression : IsExpression tokens expression)
      (isLast : last.kind = .mark .semicolon) :
      IsStatement (word :: (tokens ++ [last])) (.print expression)
  | evaluate {last : Token} {tokens : List Token} {expression : Expression}
      (isExpression : IsExpression tokens expression) (isLast : last.kind = .mark .semicolon) :
      IsStatement (tokens ++ [last]) (.evaluate expression)

inductive IsProgram : List Token → List Statement → Prop where
  | nil : IsProgram [] []
  | cons {first rest : List Token} {statement : Statement} {statements : List Statement}
      (isStatement : IsStatement first statement) (isProgram : IsProgram rest statements) :
      IsProgram (first ++ rest) (statement :: statements)

/-- All tokens of a well-formed source: those of a program and the end of input. -/
def IsSource (tokens : List Token) (program : Program) : Prop :=
  ∃ body last, tokens = body ++ [last] ∧ last.isEnd ∧ IsProgram body program.statements

/-- Whether some well-formed source begins with these tokens. -/
def Viable (tokens : List Token) : Prop := ∃ more program, IsSource (tokens ++ more) program

theorem IsLiteral.isLiteral_kind {token : Token} {value : Expression}
    (isLiteral : IsLiteral token value) : token.kind.isLiteral := by
  cases isLiteral with
  | falseWord kind => simp [kind, Kind.isLiteral]
  | trueWord kind => simp [kind, Kind.isLiteral]
  | nullWord kind => simp [kind, Kind.isLiteral]
  | number kind => simp [kind, Kind.isLiteral]
  | string kind => simp [kind, Kind.isLiteral]

theorem IsLiteral.literals {token : Token} {value : Expression}
    (isLiteral : IsLiteral token value) : value.literals = [value] := by
  cases isLiteral <;> rfl

theorem IsLiteral.eq_null_iff {token : Token} {value : Expression}
    (isLiteral : IsLiteral token value) : value = .null ↔ token.kind = .keyword .nullWord := by
  cases isLiteral with
  | falseWord kind => simp [kind]
  | trueWord kind => simp [kind]
  | nullWord kind => simp [kind]
  | number kind => simp [kind]
  | string kind => simp [kind]

/-- A parse takes these tokens for operators in front of an operand, and no others. -/
theorem prefixAs_iff {kind : Kind} {operator : Operator} :
    PrefixAs kind operator ↔ operator.kind ∈ prefixOperators ∧ kind = operator.kind := by
  constructor
  · rintro (_ | _) <;> exact ⟨by decide, rfl⟩
  · rintro ⟨among, rfl⟩
    cases operator with
    | bang => exact .bang
    | minus => exact .minus
    | _ => exact absurd among (by decide)

/-- A parse takes these tokens for operators of the level, and no others. -/
theorem infixAs_iff {level : Level} {kind : Kind} {operator : Operator} :
    InfixAs level kind operator ↔ operator.kind ∈ level.operators ∧ kind = operator.kind := by
  rw [Operator.kind_mem_operators_iff]
  constructor
  · rintro (_ | _) <;> exact ⟨rfl, rfl⟩
  · rintro ⟨atLevel, rfl⟩
    cases operator with
    | bang => contradiction
    | _ =>
      obtain rfl := Option.some.inj atLevel
      constructor

theorem levels_eq : levels = Level.all := rfl

theorem PrefixAs.isLiteral {kind : Kind} {operator : Operator} (isPrefix : PrefixAs kind operator) :
    kind.isLiteral = false := by
  cases isPrefix <;> rfl

theorem InfixAs.isLiteral {level : Level} {kind : Kind} {operator : Operator}
    (isInfix : InfixAs level kind operator) : kind.isLiteral = false := by
  cases isInfix <;> rfl

/-- The literals among some tokens and in what they stand for. -/
abbrev Matches (tokens : List Token) (literals : List Expression) : Prop :=
  List.Forall₂ IsLiteral (tokens.filter (·.kind.isLiteral)) literals

theorem Matches.append {before after : List Token} {left right : List Expression}
    (first : Matches before left) (second : Matches after right) :
    Matches (before ++ after) (left ++ right) := by
  rw [Matches, List.filter_append]
  exact List.rel_append first second

theorem Matches.cons_of_not {token : Token} {tokens : List Token} {literals : List Expression}
    (noLiteral : token.kind.isLiteral = false) (inside : Matches tokens literals) :
    Matches (token :: tokens) literals := by
  simpa [Matches, noLiteral] using inside

theorem IsOperand.literals {count : Nat} {tokens : List Token} {operand : Expression}
    (isOperand : IsOperand count tokens operand) : Matches tokens operand.literals := by
  induction isOperand with
  | literal isLiteral =>
    rw [isLiteral.literals, Matches]
    simpa [isLiteral.isLiteral_kind] using isLiteral
  | unary isPrefix _ ih => exact ih.cons_of_not isPrefix.isLiteral

theorem Derives.literals {levels : List Level} {tokens : List Token} {expression : Expression}
    (derives : Derives levels tokens expression) : Matches tokens expression.literals := by
  induction derives with
  | operand _ isOperand => exact isOperand.literals
  | tighter _ ih => exact ih
  | binary _ isInfix _ left right => exact left.append (right.cons_of_not isInfix.isLiteral)

theorem IsStatement.literals {tokens : List Token} {statement : Statement}
    (isStatement : IsStatement tokens statement) :
    Matches tokens statement.expression.literals := by
  have closed {tokens : List Token} {expression : Expression} {last : Token}
      (isExpression : IsExpression tokens expression) (isLast : last.kind = .mark .semicolon) :
      Matches (tokens ++ [last]) expression.literals := by
    have nothing : Matches [last] [] := by simp [Matches, isLast, Kind.isLiteral]
    simpa using isExpression.literals.append nothing
  cases isStatement with
  | print isWord isExpression isLast =>
    exact (closed isExpression isLast).cons_of_not (by simp [isWord, Kind.isLiteral])
  | evaluate isExpression isLast => exact closed isExpression isLast

/-- A tree has a literal for each literal of its source, and no other. -/
theorem IsProgram.literals {tokens : List Token} {statements : List Statement}
    (isProgram : IsProgram tokens statements) :
    Matches tokens (statements.flatMap (·.expression.literals)) := by
  induction isProgram with
  | nil => exact .nil
  | cons isStatement _ ih => exact isStatement.literals.append ih

end Grammar

end ScriptFront
