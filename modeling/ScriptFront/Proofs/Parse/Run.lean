import ScriptFront.Parse.Program
import ScriptFront.Proofs.Parse.Simulation

/-!
# Whole runs of a parse

A run goes from statement to statement. `ParseState.heads` lists the states in which a statement
begins and `ParseState.finish` is the state in which none does any more; the program of a parse and
its issues are read off them (`parse_statements`, `parse_issues`).

What consuming, complaining and counting the nesting keep holds throughout a statement; what
lowering the alarm keeps as well holds throughout a run.
-/
namespace ScriptFront

/-- What reading an expression keeps. It complains about the token ahead, or about a number that it
has consumed and cannot read. -/
structure ExpressionInvariant (P : ParseState → Prop) : Prop where
  consume : ∀ {state}, P state → P state.consume
  complain : ∀ {state}, P state → ∀ diagnostic ∈ [.expectedExpression, .nestsTooDeeply],
    P (state.complain diagnostic state.current)
  complainConsumed : ∀ {state}, P state → state.current.kind = .numericLiteral →
    literalValue? state.current.lexeme.toList = none →
    P (state.consume.complain .invalidNumber state.current)
  nest : ∀ {state}, P state → ∀ nesting, P (state.nest nesting)

/-- What a parse keeps, whatever it complains about. -/
structure Invariant (P : ParseState → Prop) : Prop where
  consume : ∀ {state}, P state → P state.consume
  complain : ∀ {state}, P state → ∀ diagnostic token, P (state.complain diagnostic token)
  nest : ∀ {state}, P state → ∀ nesting, P (state.nest nesting)

namespace ParseState

/-- The state in which recovery begins. -/
def lowered (state : ParseState) : ParseState :=
  { state with alarmed := false, steps := .recovering state.current.line :: state.steps }

theorem recover_eq (state : ParseState) : state.recover = state.lowered.skipToBoundary := rfl

/-- The states in which a statement begins. -/
def heads (state : ParseState) : List ParseState :=
  if state.current.isEnd then [] else state :: heads state.statement.2.settle
termination_by state.remaining
decreasing_by
  exact Nat.lt_of_le_of_lt (follows_settle _).remaining (statement_remaining state ‹_›)

/-- The state after the last statement. -/
def finish (state : ParseState) : ParseState :=
  if state.current.isEnd then state else finish state.statement.2.settle
termination_by state.remaining
decreasing_by
  exact Nat.lt_of_le_of_lt (follows_settle _).remaining (statement_remaining state ‹_›)

theorem heads_of_isEnd {state : ParseState} (isEnd : state.current.isEnd) : state.heads = [] := by
  rw [heads, if_pos isEnd]

theorem heads_of_notEnd {state : ParseState} (notEnd : ¬ state.current.isEnd) :
    state.heads = state :: state.statement.2.settle.heads := by
  rw [heads, if_neg notEnd]

theorem finish_of_isEnd {state : ParseState} (isEnd : state.current.isEnd) :
    state.finish = state := by
  rw [finish, if_pos isEnd]

theorem finish_of_notEnd {state : ParseState} (notEnd : ¬ state.current.isEnd) :
    state.finish = state.statement.2.settle.finish := by
  rw [finish, if_neg notEnd]

/-- The trees of the statements that are read from a state on. -/
def trees (state : ParseState) : List Statement := state.heads.map (·.statement.1)

theorem statementsOnto_eq (seen : List Statement) (state : ParseState) :
    statementsOnto seen state = (seen.reverse ++ state.trees, state.finish) := by
  fun_induction statementsOnto seen state with
  | case1 seen state isEnd => simp [trees, heads_of_isEnd isEnd, finish_of_isEnd isEnd]
  | case2 seen state notEnd read ih =>
    rw [ih, finish_of_notEnd notEnd, trees, trees, heads_of_notEnd notEnd]
    simp [read]

theorem heads_notEnd (state : ParseState) : ∀ head ∈ state.heads, ¬ head.current.isEnd := by
  fun_induction heads state with
  | case1 => simp
  | case2 state notEnd ih =>
    intro head among
    rcases List.mem_cons.mp among with rfl | later
    · exact notEnd
    · exact ih head later

theorem finish_isEnd (state : ParseState) : state.finish.current.isEnd := by
  fun_induction finish state with
  | case1 state isEnd => exact isEnd
  | case2 state notEnd ih => exact ih

/-- What holds from one statement to the next holds to the end. -/
theorem finish_of_statement {P : ParseState → Prop}
    (onward : ∀ {state : ParseState}, ¬ state.current.isEnd → P state → P state.statement.2.settle)
    {state : ParseState} (holds : P state) : P state.finish := by
  fun_induction finish state with
  | case1 => exact holds
  | case2 state notEnd ih => exact ih (onward notEnd holds)

end ParseState

namespace ExpressionInvariant

variable {P : ParseState → Prop} {state : ParseState}

/-- An invariant is a simulation of a state by itself. -/
theorem simulation (invariant : ExpressionInvariant P) :
    Simulation fun s t => s = t ∧ P s where
  kind related := congrArg (·.current.kind) related.1
  lexeme related := congrArg (·.current.lexeme) related.1
  nesting related := congrArg (·.nesting) related.1
  consume related _ := ⟨congrArg _ related.1, invariant.consume related.2⟩
  complain related _ known := ⟨by rw [related.1], invariant.complain related.2 _ known⟩
  complainConsumed related kind unread :=
    ⟨by rw [related.1], invariant.complainConsumed related.2 kind unread⟩
  nest related _ := ⟨by rw [related.1], invariant.nest related.2 _⟩

theorem expression (invariant : ExpressionInvariant P) (holds : P state) :
    P (Rule.expression.run state).2 :=
  (invariant.simulation.expression ⟨rfl, holds⟩).2.2

end ExpressionInvariant

namespace Invariant

open ParseState

variable {P : ParseState → Prop} {state : ParseState}

theorem onExpression (invariant : Invariant P) : ExpressionInvariant P where
  consume := invariant.consume
  complain holds _ _ := invariant.complain holds _ _
  complainConsumed holds _ _ := invariant.complain (invariant.consume holds) _ _
  nest := invariant.nest

theorem expression (invariant : Invariant P) (holds : P state) :
    P (Rule.expression.run state).2 :=
  invariant.onExpression.expression holds

theorem expect (invariant : Invariant P) (holds : P state) (kind : Kind)
    (diagnostic : Diagnostic) : P (state.expect kind diagnostic) := by
  unfold ParseState.expect
  dsimp only
  split
  · exact invariant.consume holds
  · exact invariant.complain (invariant.consume holds) _ _

theorem terminated (invariant : Invariant P) (holds : P state) (diagnostic : Diagnostic) :
    P (state.terminated diagnostic).2 :=
  invariant.expect (invariant.expression holds) _ _

theorem statement (invariant : Invariant P) (holds : P state) : P state.statement.2 := by
  rw [statement_eq]
  split
  · exact invariant.terminated (invariant.consume holds) _
  · exact invariant.terminated holds _

theorem skipToBoundary (invariant : Invariant P) (holds : P state) : P state.skipToBoundary := by
  fun_induction ParseState.skipToBoundary state with
  | case1 => exact holds
  | case2 => exact holds
  | case3 => exact holds
  | case4 state _ _ _ ih => exact ih (invariant.consume holds)

variable (invariant : Invariant P) (lowered : ∀ {state : ParseState}, P state → P state.lowered)

include invariant lowered

theorem settle (holds : P state) : P state.settle := by
  unfold ParseState.settle
  split
  · exact invariant.skipToBoundary (lowered holds)
  · exact holds

theorem finish (holds : P state) : P state.finish :=
  finish_of_statement (fun _ holds => invariant.settle lowered (invariant.statement holds)) holds

theorem heads (holds : P state) : ∀ head ∈ state.heads, P head := by
  fun_induction ParseState.heads state with
  | case1 => simp
  | case2 state notEnd ih =>
    intro head among
    rcases List.mem_cons.mp among with rfl | later
    · exact holds
    · exact ih (invariant.settle lowered (invariant.statement holds)) head later

end Invariant

namespace ParseState

theorem invariant_proper : Invariant Proper where
  consume := Proper.consume
  complain := Proper.complain
  nest := Proper.nest

theorem Proper.lowered {state : ParseState} (proper : state.Proper) : state.lowered.Proper :=
  proper.congr rfl rfl

theorem proper_ofSource (source : String) : (ofSource source).Proper :=
  proper_pull _ (stream_tokenize source)

theorem nesting_ofSource (source : String) : (ofSource source).nesting = 0 := consume_nesting _

theorem ahead_ofSource (source : String) :
    (ofSource source).ahead = withoutErrors (tokenize source) :=
  ahead_pull _ (stream_tokenize source)

/-- At the end of input the end of input is found, and nothing is reported. -/
theorem Proper.expect_endOfInput {state : ParseState} (proper : state.Proper)
    (isEnd : state.current.isEnd) (diagnostic : Diagnostic) :
    (state.expect .endOfInput diagnostic).issues = state.issues := by
  have kind : state.current.kind = .endOfInput := by simpa [Token.isEnd] using isEnd
  have notError := Token.not_isError_of_isEnd isEnd
  simp [expect, kind, ParseState.consume, proper.atEnd isEnd, pull, notError]

end ParseState

open ParseState

theorem parse_statements (source : String) :
    (parse source).program.statements = (ofSource source).trees := by
  simp [parse, statementsOnto_eq]

theorem parse_issues (source : String) :
    (parse source).issues = (ofSource source).finish.issues.reverse := by
  have proper := invariant_proper.finish Proper.lowered (proper_ofSource source)
  have last := proper.expect_endOfInput (finish_isEnd _) .expectedEndOfInput
  simp [parse, statementsOnto_eq, last]

end ScriptFront
