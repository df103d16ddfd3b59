import ScriptFront.Parse.State
import ScriptFront.Proofs.Token.Stream

/-!
# What lies ahead of a parse

A parse passes error tokens over, so what it reads is the list `ParseState.ahead` of the other
tokens, from the one ahead to the end of input. `ParseState.Proper` is what a scan and every step
after it guarantee of a state. In a proper state to consume is to drop the head of that list, and
the end of input is its last element and stays.
-/
namespace ScriptFront

def withoutErrors (tokens : List Token) : List Token := tokens.filter (! ·.isError)

theorem withoutErrors_cons_of_isError {token : Token} (isError : token.isError)
    (rest : List Token) : withoutErrors (token :: rest) = withoutErrors rest := by
  simp [withoutErrors, isError]

theorem withoutErrors_cons {token : Token} (notError : ¬ token.isError) (rest : List Token) :
    withoutErrors (token :: rest) = token :: withoutErrors rest := by
  simp [withoutErrors, notError]

theorem withoutErrors_eq_self {tokens : List Token} (clean : ∀ token ∈ tokens, ¬ token.isError) :
    withoutErrors tokens = tokens := by
  simpa [withoutErrors, List.filter_eq_self] using clean

namespace ParseState

/-- The tokens that are still to be read, from the one ahead to the end of input. -/
def ahead (state : ParseState) : List Token :=
  if state.current.isEnd then [state.current] else state.current :: withoutErrors state.unread

structure Proper (state : ParseState) : Prop where
  stream : Stream state.unread
  notError : ¬ state.current.isError
  spelled : state.current.Spelled
  /-- The end of input is never used up. -/
  atEnd : state.current.isEnd → state.unread = [state.current]

/-- No error token is left to be met. -/
def Clean (state : ParseState) : Prop := ∀ token ∈ state.unread, ¬ token.isError

section Report

variable (state : ParseState) (message : String) (diagnostic : Diagnostic) (token : Token)

@[simp] theorem report_previous : (state.report message token).previous = state.previous := by
  unfold report
  split <;> rfl

@[simp] theorem report_nesting : (state.report message token).nesting = state.nesting := by
  unfold report
  split <;> rfl

@[simp] theorem complain_unread : (state.complain diagnostic token).unread = state.unread :=
  report_unread ..

@[simp] theorem complain_current : (state.complain diagnostic token).current = state.current :=
  report_current ..

@[simp] theorem complain_previous : (state.complain diagnostic token).previous = state.previous :=
  report_previous ..

@[simp] theorem complain_nesting : (state.complain diagnostic token).nesting = state.nesting :=
  report_nesting ..

end Report

theorem ahead_eq_cons (state : ParseState) : ∃ rest, state.ahead = state.current :: rest := by
  unfold ahead
  split
  · exact ⟨[], rfl⟩
  · exact ⟨_, rfl⟩

theorem current_of_ahead {state : ParseState} {token : Token} {rest : List Token}
    (ahead : state.ahead = token :: rest) : state.current = token := by
  obtain ⟨others, split⟩ := ahead_eq_cons state
  exact (List.cons.inj (split.symm.trans ahead)).1

/-- Being proper is a matter of the token ahead and those after it. -/
theorem Proper.congr {before after : ParseState} (proper : before.Proper)
    (current : after.current = before.current) (unread : after.unread = before.unread) :
    after.Proper := by
  refine ⟨?_, ?_, ?_, ?_⟩
  · rw [unread]
    exact proper.stream
  · rw [current]
    exact proper.notError
  · rw [current]
    exact proper.spelled
  · rw [current, unread]
    exact proper.atEnd

theorem Proper.complain {state : ParseState} (proper : state.Proper) (diagnostic : Diagnostic)
    (token : Token) : (state.complain diagnostic token).Proper :=
  proper.congr (by simp) (by simp)

@[simp] theorem pull_nesting (state : ParseState) (tokens : List Token) :
    (state.pull tokens).nesting = state.nesting := by
  induction tokens generalizing state with
  | nil => rfl
  | cons token rest ih =>
    unfold pull
    dsimp only
    split
    · rw [ih, report_nesting]
    · rfl

theorem proper_pull (state : ParseState) {tokens : List Token} (stream : Stream tokens) :
    (state.pull tokens).Proper := by
  induction stream generalizing state with
  | @ends token isEnd =>
    have notError := Token.not_isError_of_isEnd isEnd
    unfold pull
    simp only [notError, isEnd, Bool.false_eq_true, ↓reduceIte]
    exact ⟨.ends isEnd, notError, Token.spelled_of_isEnd isEnd, fun _ => rfl⟩
  | @goesOn token rest notEnd spelled more ih =>
    unfold pull
    dsimp only
    split
    · exact ih _
    next notError =>
      exact ⟨more, notError, spelled, fun isEnd => absurd isEnd notEnd⟩

theorem ahead_pull (state : ParseState) {tokens : List Token} (stream : Stream tokens) :
    (state.pull tokens).ahead = withoutErrors tokens := by
  induction stream generalizing state with
  | @ends token isEnd =>
    have notError := Token.not_isError_of_isEnd isEnd
    unfold pull
    simp [notError, isEnd, ahead, withoutErrors]
  | @goesOn token rest notEnd spelled more ih =>
    unfold pull
    dsimp only
    split
    next isError => rw [ih, withoutErrors_cons_of_isError isError]
    next notError => simp [notEnd, notError, ahead, withoutErrors_cons]

@[simp] theorem consume_nesting (state : ParseState) : state.consume.nesting = state.nesting :=
  pull_nesting ..

theorem Proper.consume {state : ParseState} (proper : state.Proper) : state.consume.Proper :=
  proper_pull state proper.stream

/-- Before the end of input, consuming drops the token ahead. -/
theorem ahead_of_stream {state : ParseState} (stream : Stream state.unread)
    (notEnd : ¬ state.current.isEnd) : state.ahead = state.current :: state.consume.ahead := by
  rw [ahead, if_neg notEnd, ParseState.consume, ahead_pull state stream]

theorem Proper.ahead_of_notEnd {state : ParseState} (proper : state.Proper)
    (notEnd : ¬ state.current.isEnd) : state.ahead = state.current :: state.consume.ahead :=
  ahead_of_stream proper.stream notEnd

theorem Proper.ahead_of_isEnd {state : ParseState} (proper : state.Proper)
    (isEnd : state.current.isEnd) : state.consume.ahead = state.ahead := by
  have notError := Token.not_isError_of_isEnd isEnd
  rw [ParseState.consume, ahead_pull state proper.stream, proper.atEnd isEnd, ahead, if_pos isEnd]
  simp [withoutErrors, notError]

/-- The state with another count of operators in front of the operand. -/
def nest (nesting : Nat) (state : ParseState) : ParseState := { state with nesting := nesting }

theorem report_nest (nesting : Nat) (state : ParseState) (message : String) (token : Token) :
    (state.nest nesting).report message token = (state.report message token).nest nesting := by
  unfold report nest
  dsimp only
  split <;> rfl

theorem pull_nest (nesting : Nat) (state : ParseState) (tokens : List Token) :
    (state.nest nesting).pull tokens = (state.pull tokens).nest nesting := by
  induction tokens generalizing state with
  | nil => rfl
  | cons token rest ih =>
    have noted := report_nest nesting { state with steps := .pulled token :: state.steps }
      token.lexeme token
    unfold pull
    dsimp only
    split
    · exact (congrArg (·.pull rest) noted).trans (ih _)
    · rfl

theorem consume_nest (nesting : Nat) (state : ParseState) :
    (state.nest nesting).consume = state.consume.nest nesting :=
  pull_nest nesting state state.unread

theorem Proper.nest {state : ParseState} (proper : state.Proper) (nesting : Nat) :
    (state.nest nesting).Proper :=
  proper.congr rfl rfl

end ParseState

end ScriptFront
