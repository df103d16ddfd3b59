import ScriptFront.Diagnostic.Reporter
import ScriptFront.Parse.Expression

/-!
# Parsing programs

A source is read statement by statement to its end, whatever is wrong with it. After a statement in
which an error was reported the parse falls back on a statement boundary. Errors are values of the
outcome; whether a parse counts as failed is asked of the reporter that is told about them, which
may know of errors from before.
-/
namespace ScriptFront

/-- Reads an expression and the semicolon after it. -/
def ParseState.terminated (state : ParseState) (diagnostic : Diagnostic) :
    Expression × ParseState :=
  let (expression, next) := Rule.expression.run state
  (expression, next.expect (.mark .semicolon) diagnostic)

/-- Reads a statement. -/
def ParseState.statement (state : ParseState) : Statement × ParseState :=
  match state.matchKinds [.keyword .printWord] with
  | (some _, next) =>
    let (expression, next) := next.terminated .expectedSemicolonAfterValue
    (.print expression, next)
  | (none, next) =>
    let (expression, next) := next.terminated .expectedSemicolonAfterExpression
    (.evaluate expression, next)

namespace ParseState

theorem statement_eq (state : ParseState) :
    state.statement =
      if state.current.kind = .keyword .printWord then
        let (expression, next) := state.consume.terminated .expectedSemicolonAfterValue
        (.print expression, next)
      else
        let (expression, next) := state.terminated .expectedSemicolonAfterExpression
        (.evaluate expression, next) := by
  by_cases isWord : state.current.kind = .keyword .printWord
  · rw [statement, matchKinds_of_mem (List.mem_singleton.mpr isWord), if_pos isWord]
  · rw [statement, matchKinds_of_not_mem (mt List.mem_singleton.mp isWord), if_neg isWord]

theorem follows_terminated (state : ParseState) (diagnostic : Diagnostic) :
    Follows state (state.terminated diagnostic).2 :=
  (Rule.expression.follows state).trans (follows_expect _ _ _)

theorem terminated_remaining (state : ParseState) (diagnostic : Diagnostic)
    (notEnd : ¬ state.current.isEnd) :
    (state.terminated diagnostic).2.remaining < state.remaining := by
  have read := Rule.expression.follows state
  by_cases atEnd : (Rule.expression.run state).2.current.isEnd
  · have left : (Rule.expression.run state).2.remaining
        = (Rule.expression.run state).2.unread.length := by
      rw [remaining, if_pos atEnd, Nat.add_zero]
    have total : state.remaining = state.unread.length + 1 := by rw [remaining, if_neg notEnd]
    have consumed :=
      (follows_expect (Rule.expression.run state).2 (.mark .semicolon) diagnostic).remaining
    have shrunk := read.unread
    exact Nat.lt_of_le_of_lt consumed (by omega)
  · exact Nat.lt_of_lt_of_le (expect_remaining _ _ _ atEnd) read.remaining

/-- A statement takes at least one token. -/
theorem statement_remaining (state : ParseState) (notEnd : ¬ state.current.isEnd) :
    state.statement.2.remaining < state.remaining := by
  rw [statement_eq]
  split
  · exact Nat.lt_of_le_of_lt (follows_terminated _ _).remaining (consume_remaining state notEnd)
  · exact terminated_remaining state _ notEnd

/-- Recovers if an error was reported. -/
def settle (state : ParseState) : ParseState :=
  if state.alarmed then state.recover else state

theorem follows_settle (state : ParseState) : Follows state state.settle := by
  unfold settle
  split
  · exact follows_recover state
  · exact .refl state

/-- Reads statements to the end of input, onto those already read, the latest of which comes
first. -/
def statementsOnto (seen : List Statement) (state : ParseState) : List Statement × ParseState :=
  if state.current.isEnd then (seen.reverse, state)
  else
    let read := state.statement
    statementsOnto (read.1 :: seen) read.2.settle
termination_by state.remaining
decreasing_by
  exact Nat.lt_of_le_of_lt (follows_settle _).remaining (statement_remaining state ‹_›)

/-- The state in which the first token is ahead. -/
def ofSource (source : String) : ParseState := (initial (tokenize source)).consume

end ParseState

/-- What comes of reading a source. -/
structure Parse where
  program : Program
  /-- The issues in the order in which they were met. -/
  issues : List Issue
  /-- The steps in the order in which they were taken. -/
  steps : List ParseStep
  deriving DecidableEq, Repr

def parse (source : String) : Parse :=
  let (statements, state) := ParseState.statementsOnto [] (ParseState.ofSource source)
  let last := state.expect .endOfInput .expectedEndOfInput
  ⟨⟨statements⟩, last.issues.reverse, last.steps.reverse⟩

/-- A parse whose reporter knows of errors. The program is what could be made of the source. -/
structure ParseFailure where
  errorCount : Nat
  program : Program
  deriving DecidableEq, Repr

def ParseFailure.message (failure : ParseFailure) : String :=
  "parsing failed with " ++ toString failure.errorCount ++ " error(s)"

/-- Whether a parse succeeded, as the reporter sees it. -/
abbrev Verdict := Except ParseFailure Program

def Verdict.program : Verdict → Program
  | .ok program => program
  | .error failure => failure.program

namespace Reporter

variable {σ : Type} [Reporter σ]

/-- The verdict on a program, of a reporter that has been told about it. -/
def verdict (reporter : σ) (program : Program) : Verdict :=
  if hadError reporter then .error ⟨errorCount reporter, program⟩ else .ok program

/-- A verdict is a matter of how many errors are known. -/
theorem verdict_congr {τ : Type} [Reporter τ] {first : σ} {second : τ}
    (count : errorCount first = errorCount second) (program : Program) :
    verdict first program = verdict second program := by
  rw [verdict, verdict, hadError, hadError, count]

/-- Parses a source and tells the reporter about it. -/
def parse (reporter : σ) (source : String) : Verdict × σ :=
  let outcome := ScriptFront.parse source
  let told := recordAll reporter outcome.issues
  (verdict told outcome.program, told)

end Reporter

/-- Parses a source for a reporter that knows nothing yet. -/
def parseSource (source : String) : Verdict × Collection :=
  Reporter.parse Collection.empty source

end ScriptFront
