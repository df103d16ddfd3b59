import ScriptFront.Diagnostic.Issue
import ScriptFront.Syntax.Operator

/-!
# The state of a parse

A parse looks at one token ahead of the last one consumed. Tokens of kind `error` are reported and
passed over when they are met, so the token ahead is never one of them. The end of input is never
used up.

The first error raises an alarm, and while the alarm is raised further errors are not reported. The
parse falls back on a statement boundary and lowers the alarm there.

`ParseState.remaining` counts what is left to consume. It falls with every token consumed before the
end of input, which is why parsing ends; `Follows` is what every step of a parse keeps.
-/
namespace ScriptFront

/-- What a parse did, apart from building the tree and reporting errors. -/
inductive ParseStep where
  | pulled (token : Token)
  /-- Fell back on a statement boundary, with the token ahead on this line. -/
  | recovering (line : Nat)
  deriving DecidableEq, Repr

structure ParseState where
  /-- The token consumed last. -/
  previous : Token
  /-- The token ahead. -/
  current : Token
  /-- The tokens after the one ahead. -/
  unread : List Token
  /-- Whether an error was reported since the last recovery. -/
  alarmed : Bool
  /-- The operators in front of the operand that is being read. -/
  nesting : Nat
  /-- The issues reported, the latest first. -/
  issues : List Issue
  /-- The steps taken, the latest first. -/
  steps : List ParseStep
  deriving DecidableEq, Repr

namespace ParseState

/-- Stands for the token before the first one, and for the one ahead until it is pulled. -/
def placeholder : Token := ⟨.endOfInput, "", 0, 0, 1⟩

def initial (tokens : List Token) : ParseState :=
  ⟨placeholder, placeholder, tokens, false, 0, [], []⟩

def report (state : ParseState) (message : String) (token : Token) : ParseState :=
  if state.alarmed then state
  else { state with issues := ⟨.error, message, token⟩ :: state.issues, alarmed := true }

def complain (state : ParseState) (diagnostic : Diagnostic) (token : Token) : ParseState :=
  state.report diagnostic.message token

/-- Moves ahead to the first of the tokens that is no error, and reports those before it. -/
def pull (state : ParseState) : List Token → ParseState
  | [] => { state with previous := state.current, current := placeholder, unread := [] }
  | token :: rest =>
    let noted := { state with steps := .pulled token :: state.steps }
    if token.isError then (noted.report token.lexeme token).pull rest
    else
      { noted with
        previous := state.current
        current := token
        unread := if token.isEnd then token :: rest else rest }

/-- Consumes the token ahead. -/
def consume (state : ParseState) : ParseState := state.pull state.unread

/-- Consumes the token ahead, and complains about it if it has another kind. -/
def expect (state : ParseState) (kind : Kind) (diagnostic : Diagnostic) : ParseState :=
  let next := state.consume
  if next.previous.kind = kind then next else next.complain diagnostic next.previous

/-- Consumes the token ahead if it is of one of these kinds. -/
def matchKinds (kinds : List Kind) (state : ParseState) : Option Token × ParseState :=
  if state.current.kind ∈ kinds then (some state.consume.previous, state.consume) else (none, state)

/-- Consumes the token ahead if it is of one of these kinds, for the operator that it stands for.
Of kinds that are no operators a token would be consumed all the same, and nothing come of it. -/
def matchOperator (kinds : List Kind) (state : ParseState) : Option Operator × ParseState :=
  let (token?, next) := state.matchKinds kinds
  (token?.bind fun token => Operator.ofKind? token.kind, next)

/-- How many tokens can still be consumed before the end of input, by an upper bound. -/
def remaining (state : ParseState) : Nat :=
  state.unread.length + if state.current.isEnd then 0 else 1

/-- What a step keeps: no token comes back. -/
structure Follows (before after : ParseState) : Prop where
  unread : after.unread.length ≤ before.unread.length
  remaining : after.remaining ≤ before.remaining

namespace Follows

theorem refl (state : ParseState) : Follows state state := ⟨Nat.le_refl _, Nat.le_refl _⟩

theorem trans {first second third : ParseState} (left : Follows first second)
    (right : Follows second third) : Follows first third :=
  ⟨Nat.le_trans right.unread left.unread, Nat.le_trans right.remaining left.remaining⟩

end Follows

theorem report_unread (state : ParseState) (message : String) (token : Token) :
    (state.report message token).unread = state.unread := by
  unfold report
  split <;> rfl

theorem report_current (state : ParseState) (message : String) (token : Token) :
    (state.report message token).current = state.current := by
  unfold report
  split <;> rfl

theorem follows_report (state : ParseState) (message : String) (token : Token) :
    Follows state (state.report message token) := by
  constructor <;> simp [remaining, report_unread, report_current]

/-- After a pull no more is left than there was to pull. -/
theorem pull_remaining (state : ParseState) (tokens : List Token) :
    (state.pull tokens).remaining ≤ tokens.length := by
  induction tokens generalizing state with
  | nil => simp [pull, remaining, placeholder, Token.isEnd]
  | cons token rest shorter =>
    unfold pull
    dsimp only
    split
    · exact Nat.le_succ_of_le (shorter _)
    · unfold remaining
      dsimp only
      split <;> simp

theorem pull_unread (state : ParseState) (tokens : List Token) :
    (state.pull tokens).unread.length ≤ tokens.length :=
  Nat.le_trans (Nat.le_add_right ..) (pull_remaining state tokens)

@[simp] theorem pull_previous (state : ParseState) (tokens : List Token) :
    (state.pull tokens).previous = state.current := by
  induction tokens generalizing state with
  | nil => rfl
  | cons token rest ih =>
    unfold pull
    dsimp only
    split
    · rw [ih, report_current]
    · rfl

@[simp] theorem consume_previous (state : ParseState) : state.consume.previous = state.current :=
  pull_previous state state.unread

theorem follows_consume (state : ParseState) : Follows state state.consume :=
  ⟨pull_unread _ _, Nat.le_trans (pull_remaining _ _) (Nat.le_add_right ..)⟩

theorem consume_remaining (state : ParseState) (notEnd : ¬ state.current.isEnd) :
    state.consume.remaining < state.remaining := by
  have total : state.remaining = state.unread.length + 1 := by rw [remaining, if_neg notEnd]
  rw [total]
  exact Nat.lt_succ_of_le (pull_remaining state state.unread)

theorem follows_expect (state : ParseState) (kind : Kind) (diagnostic : Diagnostic) :
    Follows state (state.expect kind diagnostic) := by
  unfold expect
  dsimp only
  split
  · exact follows_consume state
  · exact (follows_consume state).trans (follows_report _ _ _)

theorem expect_remaining (state : ParseState) (kind : Kind) (diagnostic : Diagnostic)
    (notEnd : ¬ state.current.isEnd) :
    (state.expect kind diagnostic).remaining < state.remaining := by
  have consumed := consume_remaining state notEnd
  unfold expect
  dsimp only
  split
  · exact consumed
  · exact Nat.lt_of_le_of_lt (follows_report _ _ _).remaining consumed

section Matching

variable {kinds : List Kind} {state next : ParseState} {operator : Operator}

theorem matchKinds_of_mem (among : state.current.kind ∈ kinds) :
    state.matchKinds kinds = (some state.current, state.consume) := by
  rw [matchKinds, if_pos among, consume_previous]

theorem matchKinds_of_not_mem (absent : state.current.kind ∉ kinds) :
    state.matchKinds kinds = (none, state) := if_neg absent

theorem matchOperator_of_mem (among : state.current.kind ∈ kinds) :
    state.matchOperator kinds = (Operator.ofKind? state.current.kind, state.consume) := by
  rw [matchOperator, matchKinds_of_mem among]
  rfl

theorem matchOperator_of_not_mem (absent : state.current.kind ∉ kinds) :
    state.matchOperator kinds = (none, state) := by
  rw [matchOperator, matchKinds_of_not_mem absent]
  rfl

theorem matchOperator_eq_some_iff :
    state.matchOperator kinds = (some operator, next) ↔
      operator.kind ∈ kinds ∧ state.current.kind = operator.kind ∧ next = state.consume := by
  by_cases among : state.current.kind ∈ kinds
  · rw [matchOperator_of_mem among, Prod.mk.injEq, Operator.ofKind?_eq_some_iff]
    constructor
    · rintro ⟨kind, rfl⟩
      exact ⟨kind ▸ among, kind, rfl⟩
    · rintro ⟨-, kind, rfl⟩
      exact ⟨kind, rfl⟩
  · rw [matchOperator_of_not_mem among]
    constructor
    · intro taken
      simp at taken
    · rintro ⟨operators, kind, -⟩
      exact absurd (kind ▸ operators) among

/-- An operator is no end of input. -/
theorem matchOperator_next (taken : state.matchOperator kinds = (some operator, next)) :
    next = state.consume ∧ ¬ state.current.isEnd := by
  obtain ⟨-, kind, rfl⟩ := matchOperator_eq_some_iff.mp taken
  exact ⟨rfl, by simp [Token.isEnd, kind, Operator.kind]⟩

theorem matchOperator_remaining (taken : state.matchOperator kinds = (some operator, next)) :
    next.remaining < state.remaining := by
  obtain ⟨rfl, notEnd⟩ := matchOperator_next taken
  exact consume_remaining state notEnd

theorem follows_of_match {found : Option Operator}
    (taken : state.matchOperator kinds = (found, next)) : Follows state next := by
  by_cases among : state.current.kind ∈ kinds
  · rw [matchOperator_of_mem among] at taken
    exact (Prod.mk.inj taken).2 ▸ follows_consume state
  · rw [matchOperator_of_not_mem among] at taken
    exact (Prod.mk.inj taken).2 ▸ .refl state

/-- Where no operator comes of kinds that are all operators, no token is consumed. -/
theorem matchOperator_none (known : ∀ kind ∈ kinds, (Operator.ofKind? kind).isSome)
    (none : state.matchOperator kinds = (none, next)) :
    next = state ∧ state.current.kind ∉ kinds := by
  by_cases among : state.current.kind ∈ kinds
  · rw [matchOperator_of_mem among] at none
    have unknown := known _ among
    rw [(Prod.mk.inj none).1] at unknown
    contradiction
  · rw [matchOperator_of_not_mem among] at none
    exact ⟨(Prod.mk.inj none).2.symm, among⟩

theorem matchOperator_cases (known : ∀ kind ∈ kinds, (Operator.ofKind? kind).isSome)
    (state : ParseState) :
    (state.matchOperator kinds = (none, state) ∧ state.current.kind ∉ kinds) ∨
      ∃ operator, state.matchOperator kinds = (some operator, state.consume) := by
  match taken : state.matchOperator kinds with
  | (none, next) =>
    obtain ⟨rfl, absent⟩ := matchOperator_none known taken
    exact .inl ⟨rfl, absent⟩
  | (some operator, next) =>
    obtain ⟨rfl, -⟩ := matchOperator_next taken
    exact .inr ⟨operator, rfl⟩

theorem matchOperator_prefix (state : ParseState) :
    (state.matchOperator prefixOperators = (none, state) ∧
        state.current.kind ∉ prefixOperators) ∨
      ∃ operator, state.matchOperator prefixOperators = (some operator, state.consume) :=
  matchOperator_cases Operator.prefixOperators_known state

theorem matchOperator_level (level : Level) (state : ParseState) :
    (state.matchOperator level.operators = (none, state) ∧
        state.current.kind ∉ level.operators) ∨
      ∃ operator, state.matchOperator level.operators = (some operator, state.consume) :=
  matchOperator_cases (Operator.operators_known level) state

end Matching

/-- Consumes tokens up to a statement boundary: just after a semicolon, in front of a word that
begins a statement, or at the end of input. -/
def skipToBoundary (state : ParseState) : ParseState :=
  if state.current.isEnd then state
  else if state.previous.kind = .mark .semicolon then state
  else if state.current.kind.startsStatement then state
  else skipToBoundary state.consume
termination_by state.remaining
decreasing_by exact consume_remaining state ‹_›

/-- Lowers the alarm and goes on at the next statement boundary. -/
def recover (state : ParseState) : ParseState :=
  skipToBoundary
    { state with alarmed := false, steps := .recovering state.current.line :: state.steps }

theorem follows_skipToBoundary (state : ParseState) : Follows state state.skipToBoundary := by
  fun_induction skipToBoundary state with
  | case1 => exact .refl _
  | case2 => exact .refl _
  | case3 => exact .refl _
  | case4 state _ _ _ onward => exact (follows_consume state).trans onward

theorem follows_recover (state : ParseState) : Follows state state.recover := by
  have skipped := follows_skipToBoundary
    { state with alarmed := false, steps := .recovering state.current.line :: state.steps }
  exact ⟨skipped.unread, skipped.remaining⟩

end ParseState

end ScriptFront
