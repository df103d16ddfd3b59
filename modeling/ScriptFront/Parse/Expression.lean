import ScriptFront.Number.Literal
import ScriptFront.Parse.State
import ScriptFront.Syntax.Tree

/-!
# Parsing expressions

A rule reads an expression from a state and never brings a token back. The tightest rule reads
operators in front of a literal; each level of binary operators is a chain over the rule of the next
tighter level, and its operators associate to the left. Where no expression stands, a rule
complains, consumes nothing and answers `null`.

Operators in front of an operand may nest up to `nestingLimit`.
-/
namespace ScriptFront

/-- A way to read an expression. -/
structure Rule where
  run : ParseState → Expression × ParseState
  follows : ∀ state, ParseState.Follows state (run state).2

namespace Rule

open ParseState (Follows follows_of_match)

/-- The text of a string literal: what stands between its quotes. -/
def unquoted (lexeme : String) : String :=
  match lexeme.toList with
  | '"' :: rest =>
    match rest.reverse with
    | '"' :: body => String.ofList body.reverse
    | _ => lexeme
  | _ => lexeme

/-- Reads a literal. -/
def primary (state : ParseState) : Expression × ParseState :=
  match state.current.kind with
  | .keyword .falseWord => (.bool false, state.consume)
  | .keyword .trueWord => (.bool true, state.consume)
  | .keyword .nullWord => (.null, state.consume)
  | .numericLiteral =>
    let next := state.consume
    match literalValue? next.previous.lexeme.toList with
    | some value => (.number value, next)
    | none => (.null, next.complain .invalidNumber next.previous)
  | .stringLiteral => (.string (unquoted state.current.lexeme), state.consume)
  | _ => (.null, state.complain .expectedExpression state.current)

theorem follows_primary (state : ParseState) : Follows state (primary state).2 := by
  unfold primary
  split
  · exact ParseState.follows_consume state
  · exact ParseState.follows_consume state
  · exact ParseState.follows_consume state
  · dsimp only
    split
    · exact ParseState.follows_consume state
    · exact (ParseState.follows_consume state).trans (ParseState.follows_report _ _ _)
  · exact ParseState.follows_consume state
  · exact ParseState.follows_report _ _ _

/-- How many operators may stand in front of an operand. -/
def nestingLimit : Nat := 200

/-- Reads a literal with the operators in front of it. -/
def prefixed (state : ParseState) : Expression × ParseState :=
  match _taken : state.matchOperator prefixOperators with
  | (none, next) => primary next
  | (some operator, next) =>
    if nestingLimit ≤ next.nesting then (.null, next.complain .nestsTooDeeply next.current)
    else
      let (operand, after) := prefixed { next with nesting := next.nesting + 1 }
      (.unary operator operand, { after with nesting := after.nesting - 1 })
termination_by state.remaining
decreasing_by exact show next.remaining < _ from ParseState.matchOperator_remaining _taken

theorem follows_prefixed (state : ParseState) : Follows state (prefixed state).2 := by
  fun_induction prefixed state with
  | case1 state next taken =>
    exact (follows_of_match taken).trans (follows_primary next)
  | case2 state operator next taken =>
    exact (follows_of_match taken).trans (ParseState.follows_report _ _ _)
  | case3 state operator next taken _ operand after result onward =>
    rw [result] at onward
    exact (follows_of_match taken).trans ⟨onward.unread, onward.remaining⟩

def unary : Rule := ⟨prefixed, follows_prefixed⟩

/-- Reads operators of a level and their right operands, onto the expression read before. -/
def chainOnto (level : Level) (operand : Rule) (left : Expression) (state : ParseState) :
    Expression × ParseState :=
  match _taken : state.matchOperator level.operators with
  | (none, next) => (left, next)
  | (some operator, next) =>
    let right := operand.run next
    chainOnto level operand (.binary left operator right.1) right.2
termination_by state.remaining
decreasing_by
  exact Nat.lt_of_le_of_lt (operand.follows next).remaining
    (ParseState.matchOperator_remaining _taken)

theorem follows_chainOnto (level : Level) (operand : Rule) (left : Expression)
    (state : ParseState) : Follows state (chainOnto level operand left state).2 := by
  fun_induction chainOnto level operand left state with
  | case1 left state next taken => exact follows_of_match taken
  | case2 left state operator next taken right onward =>
    exact ((follows_of_match taken).trans (operand.follows next)).trans onward

/-- Operands with operators of one level between them. -/
def chain (level : Level) (operand : Rule) : Rule where
  run state := chainOnto level operand (operand.run state).1 (operand.run state).2
  follows state := (operand.follows state).trans (follows_chainOnto _ _ _ _)

/-- Any expression: chains of all levels, the loosest outermost. -/
def expression : Rule := Level.all.foldr chain unary

end Rule

end ScriptFront
