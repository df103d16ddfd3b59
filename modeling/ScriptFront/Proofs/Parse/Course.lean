import Mathlib.Logic.Relation
import ScriptFront.Proofs.Parse.Run

/-!
# The course of a parse

A rule says what comes of reading, not which states a parse goes through on the way. Here a parse is
taken apart into its single steps. A `Moment` is a state with the jobs that are still to be done,
the next one first; a step does a part of that job and puts what is left of it in front of the
others. So a rule that is waiting for another one to return is a job further back.

The steps are those of the rules: each job leaves the state that its rule gives (`does_operand`,
`does_read`, `does_statement`), and the course of a source ends where its parse does
(`reaches_end`).
-/
namespace ScriptFront

inductive Job where
  /-- Go on to the next token that is no error. -/
  | consume
  /-- Read statements to the end of input. -/
  | statements
  | statement
  /-- Recover if an error was reported. -/
  | settle
  /-- Go on to a statement boundary. -/
  | skip
  /-- Consume a token of this kind. -/
  | expect (kind : Kind) (diagnostic : Diagnostic)
  /-- Complain about the token consumed last unless it has this kind. -/
  | check (kind : Kind) (diagnostic : Diagnostic)
  /-- Read an expression with operators of these levels. Without a level it is an operand: a literal
  with the operators in front of it. -/
  | read (levels : List Level)
  /-- Read operators of a level with their right operands. -/
  | chain (level : Level) (tighter : List Level)
  /-- An operator in front of an operand was consumed: read its operand, if it may nest. -/
  | enter
  /-- The operator that was waiting for its operand has it. -/
  | leave
  | literal
  /-- Complain about the number consumed last if it cannot be read. -/
  | number
  deriving DecidableEq, Repr

namespace ParseState

/-- The state with other tokens after the one ahead. -/
def withUnread (unread : List Token) (state : ParseState) : ParseState :=
  { state with unread := unread }

/-- Takes one token from those unread. An error is reported and there is more to do; another token
is the one ahead from now on. -/
def takeToken (state : ParseState) : List Job × ParseState :=
  match state.unread with
  | [] => ([], { state with previous := state.current, current := placeholder, unread := [] })
  | token :: rest =>
    let noted := { state with steps := .pulled token :: state.steps }
    if token.isError then ([.consume], (noted.report token.lexeme token).withUnread rest)
    else
      ([], { noted with
        previous := state.current
        current := token
        unread := if token.isEnd then token :: rest else rest })

end ParseState

namespace Job

/-- What is left to do of the job after a step, and the state after it. -/
def step (state : ParseState) : Job → List Job × ParseState
  | consume => state.takeToken
  | statements =>
    if state.current.isEnd then ([], state) else ([statement, settle, statements], state)
  | statement =>
    if state.current.kind = .keyword .printWord then
      ([consume, read Level.all, expect (.mark .semicolon) .expectedSemicolonAfterValue], state)
    else ([read Level.all, expect (.mark .semicolon) .expectedSemicolonAfterExpression], state)
  | settle => if state.alarmed then ([skip], state.lowered) else ([], state)
  | skip =>
    if state.current.isEnd then ([], state)
    else if state.previous.kind = .mark .semicolon then ([], state)
    else if state.current.kind.startsStatement then ([], state)
    else ([consume, skip], state)
  | expect kind diagnostic => ([consume, check kind diagnostic], state)
  | check kind diagnostic =>
    if state.previous.kind = kind then ([], state)
    else ([], state.complain diagnostic state.previous)
  | read [] =>
    if (state.matchOperator prefixOperators).1.isSome then ([consume, enter], state)
    else ([literal], state)
  | read (level :: tighter) => ([read tighter, chain level tighter], state)
  | chain level tighter =>
    if (state.matchOperator level.operators).1.isSome then
      ([consume, read tighter, chain level tighter], state)
    else ([], state)
  | enter =>
    if Rule.nestingLimit ≤ state.nesting then ([], state.complain .nestsTooDeeply state.current)
    else ([read [], leave], state.nest (state.nesting + 1))
  | leave => ([], state.nest (state.nesting - 1))
  | literal =>
    match state.current.kind with
    | .keyword .falseWord | .keyword .trueWord | .keyword .nullWord | .stringLiteral =>
      ([consume], state)
    | .numericLiteral => ([consume, number], state)
    | _ => ([], state.complain .expectedExpression state.current)
  | number =>
    if (literalValue? state.previous.lexeme.toList).isSome then ([], state)
    else ([], state.complain .invalidNumber state.previous)

end Job

/-- A state on the course of a parse, and what is to be done from there on. -/
structure Moment where
  jobs : List Job
  state : ParseState
  deriving DecidableEq, Repr

namespace Moment

inductive Next : Moment → Moment → Prop where
  | step (job : Job) (rest : List Job) (state : ParseState) :
      Next ⟨job :: rest, state⟩ ⟨(job.step state).1 ++ rest, (job.step state).2⟩

abbrev Reaches : Moment → Moment → Prop := Relation.ReflTransGen Next

/-- Before the first token is pulled. -/
def start (source : String) : Moment :=
  ⟨[.consume, .statements, .expect .endOfInput .expectedEndOfInput],
    .initial (tokenize source)⟩

end Moment

open Moment

/-- Whatever is to be done afterwards, doing these jobs leads from one state to the other. -/
def Does (jobs : List Job) (before after : ParseState) : Prop :=
  ∀ rest, Reaches ⟨jobs ++ rest, before⟩ ⟨rest, after⟩

namespace Does

variable {job : Job} {jobs : List Job} {first second third : ParseState}

theorem nil (state : ParseState) : Does [] state state := fun _ => .refl

theorem cons (does : Does [job] first second) (others : Does jobs second third) :
    Does (job :: jobs) first third :=
  fun rest => (does (jobs ++ rest)).trans (others rest)

theorem of_step (does : Does (job.step first).1 (job.step first).2 second) :
    Does [job] first second :=
  fun rest => .head (.step job rest first) (does rest)

/-- A job that is done in one step. -/
theorem of_done (done : job.step first = ([], second)) : Does [job] first second := by
  refine .of_step ?_
  rw [done]
  exact .nil second

/-- A job that leaves others to be done in the same state. -/
theorem of_split (left : job.step first = (jobs, first)) (does : Does jobs first second) :
    Does [job] first second := by
  refine .of_step ?_
  rw [left]
  exact does

end Does

namespace ParseState

variable (state : ParseState)

theorem report_withUnread (unread : List Token) (message : String) (token : Token) :
    (state.withUnread unread).report message token =
      (state.report message token).withUnread unread := by
  unfold report withUnread
  dsimp only
  split <;> rfl

/-- Taking tokens one by one comes to a pull of all of them. -/
theorem does_pull (tokens : List Token) :
    Does [.consume] (state.withUnread tokens) (state.pull tokens) := by
  induction tokens generalizing state with
  | nil => exact .of_done rfl
  | cons token rest ih =>
    let noted : ParseState := { state with steps := .pulled token :: state.steps }
    by_cases isError : token.isError
    · have taken : Job.consume.step (state.withUnread (token :: rest)) =
          ([.consume], ((noted.withUnread (token :: rest)).report token.lexeme token).withUnread
            rest) := if_pos isError
      have pulled : state.pull (token :: rest) = (noted.report token.lexeme token).pull rest :=
        if_pos isError
      refine .of_step ?_
      rw [taken, report_withUnread, pulled]
      exact ih (noted.report token.lexeme token)
    · have taken : Job.consume.step (state.withUnread (token :: rest)) =
          ([], state.pull (token :: rest)) := by
        rw [pull, if_neg isError]
        exact if_neg isError
      exact .of_done taken

theorem does_consume : Does [.consume] state state.consume := does_pull state state.unread

theorem does_check (kind : Kind) (diagnostic : Diagnostic) :
    Does [.check kind diagnostic] state
      (if state.previous.kind = kind then state
        else state.complain diagnostic state.previous) := by
  refine .of_done ?_
  rw [Job.step]
  split <;> rfl

theorem does_expect (kind : Kind) (diagnostic : Diagnostic) :
    Does [.expect kind diagnostic] state (state.expect kind diagnostic) :=
  .of_split rfl (.cons (does_consume state) (does_check state.consume kind diagnostic))

theorem does_number :
    Does [.number] state
      (if (literalValue? state.previous.lexeme.toList).isSome then state
        else state.complain .invalidNumber state.previous) := by
  refine .of_done ?_
  rw [Job.step]
  split <;> rfl

theorem does_literal : Does [.literal] state (Rule.primary state).2 := by
  unfold Rule.primary
  split
  case h_1 kind => exact .of_split (by rw [Job.step, kind]) (does_consume state)
  case h_2 kind => exact .of_split (by rw [Job.step, kind]) (does_consume state)
  case h_3 kind => exact .of_split (by rw [Job.step, kind]) (does_consume state)
  case h_4 kind =>
    refine .of_split (by rw [Job.step, kind]) (.cons (does_consume state) ?_)
    have number := does_number state.consume
    dsimp only
    split
    next value read => simpa only [read, Option.isSome_some, ↓reduceIte] using number
    next read => simpa only [read, Option.isSome_none, Bool.false_eq_true, ↓reduceIte] using number
  case h_5 kind => exact .of_split (by rw [Job.step, kind]) (does_consume state)
  case h_6 => exact .of_done (by simp_all [Job.step])

theorem does_operand : Does [.read []] state (Rule.prefixed state).2 := by
  induction size : state.remaining using Nat.strongRecOn generalizing state with
  | ind _ shorter =>
    rcases state.matchOperator_prefix with ⟨none, -⟩ | ⟨operator, taken⟩
    · rw [Rule.prefixed_of_none none]
      have left : (Job.read []).step state = ([.literal], state) := by simp [Job.step, none]
      exact .of_split left (does_literal state)
    · have left : (Job.read []).step state = ([.consume, .enter], state) := by
        simp [Job.step, taken]
      refine .of_split left (.cons (does_consume state) ?_)
      by_cases deep : Rule.nestingLimit ≤ state.consume.nesting
      · rw [Rule.prefixed_of_deep taken deep]
        exact .of_done (by rw [Job.step, if_pos deep])
      · have fewer : (state.consume.nest (state.consume.nesting + 1)).remaining < _ :=
          size ▸ matchOperator_remaining taken
        have inner := shorter _ fewer (state.consume.nest (state.consume.nesting + 1)) rfl
        rw [Rule.prefixed_of_some taken deep]
        -- The count is raised in the same step, so the jobs left do not begin where this one did.
        refine .of_step ?_
        rw [Job.step, if_neg deep]
        exact .cons inner (.of_done rfl)

theorem does_chain (level : Level) (tighter : List Level) (left : Expression)
    (does_tighter : ∀ state, Does [.read tighter] state ((Rule.ofLevels tighter).run state).2) :
    Does [.chain level tighter] state
      (Rule.chainOnto level (Rule.ofLevels tighter) left state).2 := by
  fun_induction Rule.chainOnto level (Rule.ofLevels tighter) left state with
  | case1 left state next none =>
    obtain ⟨rfl, -⟩ := matchOperator_none (Operator.operators_known level) none
    exact .of_done (by simp [Job.step, none])
  | case2 left state operator next taken right ih =>
    obtain ⟨rfl, -⟩ := matchOperator_next taken
    have split : (Job.chain level tighter).step state =
        ([.consume, .read tighter, .chain level tighter], state) := by simp [Job.step, taken]
    exact .of_split split (.cons (does_consume state) (.cons (does_tighter state.consume) ih))

theorem does_read (levels : List Level) :
    Does [.read levels] state ((Rule.ofLevels levels).run state).2 := by
  induction levels generalizing state with
  | nil => exact does_operand state
  | cons level tighter ih =>
    rw [Rule.ofLevels_cons_run]
    exact .of_split rfl (.cons (ih state) (does_chain _ level tighter _ ih))

theorem does_terminated (diagnostic : Diagnostic) :
    Does [.read Level.all, .expect (.mark .semicolon) diagnostic] state
      (state.terminated diagnostic).2 :=
  .cons (does_read state Level.all) (does_expect _ _ diagnostic)

theorem does_statement : Does [.statement] state state.statement.2 := by
  rw [statement_eq]
  split
  next isWord =>
    refine .of_split (by rw [Job.step, if_pos isWord]) ?_
    exact .cons (does_consume state) (does_terminated state.consume _)
  next notWord =>
    exact .of_split (by rw [Job.step, if_neg notWord]) (does_terminated state _)

theorem does_skip : Does [.skip] state state.skipToBoundary := by
  fun_induction skipToBoundary state with
  | case1 state isEnd => exact .of_done (by rw [Job.step, if_pos isEnd])
  | case2 state notEnd behind => exact .of_done (by rw [Job.step, if_neg notEnd, if_pos behind])
  | case3 state notEnd noSemicolon starts =>
    exact .of_done (by rw [Job.step, if_neg notEnd, if_neg noSemicolon, if_pos starts])
  | case4 state notEnd noSemicolon noWord ih =>
    refine .of_split ?_ (.cons (does_consume state) ih)
    rw [Job.step, if_neg notEnd, if_neg noSemicolon, if_neg noWord]

theorem does_settle : Does [.settle] state state.settle := by
  unfold settle
  split
  next alarmed =>
    refine .of_step ?_
    rw [Job.step, if_pos alarmed]
    exact does_skip state.lowered
  next calm => exact .of_done (by rw [Job.step, if_neg calm])

theorem does_statements : Does [.statements] state state.finish := by
  fun_induction finish state with
  | case1 state isEnd => exact .of_done (by rw [Job.step, if_pos isEnd])
  | case2 state notEnd ih =>
    refine .of_split (by rw [Job.step, if_neg notEnd]) ?_
    exact .cons (does_statement state) (.cons (does_settle state.statement.2) ih)

/-- On the way through the statements each of them is begun. -/
theorem reaches_heads (rest : List Job) :
    ∀ head ∈ state.heads, Reaches ⟨.statements :: rest, state⟩
      ⟨.statement :: .settle :: .statements :: rest, head⟩ := by
  fun_induction heads state with
  | case1 => simp
  | case2 state notEnd ih =>
    have begun : Reaches ⟨.statements :: rest, state⟩
        ⟨.statement :: .settle :: .statements :: rest, state⟩ := by
      refine .single ?_
      have next := Next.step .statements rest state
      rwa [Job.step, if_neg notEnd] at next
    intro head among
    rcases List.mem_cons.mp among with rfl | later
    · exact begun
    · have read := does_statement state (.settle :: .statements :: rest)
      have settled := does_settle state.statement.2 (.statements :: rest)
      exact ((begun.trans read).trans settled).trans (ih head later)

end ParseState

open ParseState

variable (source : String)

theorem reaches_ofSource :
    Reaches (start source)
      ⟨[.statements, .expect .endOfInput .expectedEndOfInput], ofSource source⟩ :=
  does_consume (initial (tokenize source)) _

theorem reaches_head :
    ∀ head ∈ (ofSource source).heads,
      Reaches (start source)
        ⟨[.statement, .settle, .statements, .expect .endOfInput .expectedEndOfInput], head⟩ :=
  fun head among => (reaches_ofSource source).trans (reaches_heads _ _ head among)

/-- Nothing is left to be done in the state in which the parse of the source ends. -/
theorem reaches_end :
    ∃ last, Reaches (start source) ⟨[], last⟩ ∧ (parse source).issues = last.issues.reverse ∧
      (parse source).steps = last.steps.reverse := by
  have read := does_statements (ofSource source) [.expect .endOfInput .expectedEndOfInput]
  have found := does_expect (ofSource source).finish .endOfInput .expectedEndOfInput []
  refine ⟨_, ((reaches_ofSource source).trans read).trans found, ?_, ?_⟩
  · simp [parse, statementsOnto_eq]
  · simp [parse, statementsOnto_eq]

end ScriptFront
