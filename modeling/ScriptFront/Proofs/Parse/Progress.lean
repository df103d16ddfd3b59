import ScriptFront.Proofs.Parse.Alike
import ScriptFront.Proofs.Parse.Verdict

/-!
# Progress of a parse

Nothing that is consumed comes back: what lies ahead of a parse after some steps is the end of what
lay ahead before (`invariant_proper_suffix`). An operand that is missing consumes nothing, and
neither does a recovery at a boundary, but a statement consumes a token where its semicolon should
be. So a statement begins with less ahead than the one before, by its first token at least
(`settled_suffix`), and there are not more statements than tokens.

The loops of a parse and its recursion take their answers from the state to which a round of them
leads (`Unrolled`). Every round, of whichever kind, uses a token up (`GoesOn.remaining`), and so
none of them goes on for ever (`parse_progress`).
-/
namespace ScriptFront

/-- A round of a loop, or of the recursion, from where it begins to where the next one does: a
statement with the recovery after it, a token skipped on the way to a boundary, an operator with its
right operand, or an operator in front of an operand. -/
inductive GoesOn : ParseState → ParseState → Prop where
  | statement {state : ParseState} (notEnd : ¬ state.current.isEnd) :
      GoesOn state state.statement.2.settle
  | skip {state : ParseState} (notEnd : ¬ state.current.isEnd)
      (noSemicolon : state.previous.kind ≠ .mark .semicolon)
      (noWord : ¬ state.current.kind.startsStatement) : GoesOn state state.consume
  | operand {state next : ParseState} {level : Level} {operator : Operator} (rule : Rule)
      (taken : state.matchOperator level.operators = (some operator, next)) :
      GoesOn state (rule.run next).2
  | operator {state next : ParseState} {operator : Operator}
      (taken : state.matchOperator prefixOperators = (some operator, next))
      (shallow : ¬ Rule.nestingLimit ≤ next.nesting) :
      GoesOn state (next.nest (next.nesting + 1))

/-- Each loop of a parse, and the recursion in front of operands, is done where it stands or does
the same again where a round leads. -/
structure Unrolled : Prop where
  statements (seen : List Statement) (state : ParseState) :
    state.statementsOnto seen = (seen.reverse, state) ∨
      ∃ next, GoesOn state next ∧
        state.statementsOnto seen = next.statementsOnto (state.statement.1 :: seen)
  boundary (state : ParseState) :
    state.skipToBoundary = state ∨
      ∃ next, GoesOn state next ∧ state.skipToBoundary = next.skipToBoundary
  chain (level : Level) (rule : Rule) (left : Expression) (state : ParseState) :
    Rule.chainOnto level rule left state = (left, state) ∨
      ∃ further next, GoesOn state next ∧
        Rule.chainOnto level rule left state = Rule.chainOnto level rule further next
  operators (state : ParseState) :
    Rule.prefixed state = Rule.primary state ∨
      Rule.prefixed state =
        (.null, state.consume.complain .nestsTooDeeply state.consume.current) ∨
      ∃ operator next, GoesOn state next ∧
        Rule.prefixed state = (.unary operator (Rule.prefixed next).1,
          (Rule.prefixed next).2.nest ((Rule.prefixed next).2.nesting - 1))

section Rounds

open ParseState

variable (state : ParseState)

theorem statementsOnto_round (seen : List Statement) :
    state.statementsOnto seen = (seen.reverse, state) ∨
      ∃ next, GoesOn state next ∧
        state.statementsOnto seen = next.statementsOnto (state.statement.1 :: seen) := by
  by_cases isEnd : state.current.isEnd
  · rw [statementsOnto, if_pos isEnd]
    exact .inl rfl
  · refine .inr ⟨_, .statement isEnd, ?_⟩
    rw [statementsOnto, if_neg isEnd]

theorem skipToBoundary_round :
    state.skipToBoundary = state ∨
      ∃ next, GoesOn state next ∧ state.skipToBoundary = next.skipToBoundary := by
  by_cases isEnd : state.current.isEnd
  · exact .inl (skip_of_isEnd isEnd)
  by_cases behind : state.previous.kind = .mark .semicolon
  · exact .inl (skip_of_previous behind)
  by_cases starts : state.current.kind.startsStatement
  · exact .inl (skip_of_startsStatement starts)
  · exact .inr ⟨_, .skip isEnd behind starts, skip_of_none isEnd behind starts⟩

theorem chainOnto_round (level : Level) (rule : Rule) (left : Expression) :
    Rule.chainOnto level rule left state = (left, state) ∨
      ∃ further next, GoesOn state next ∧
        Rule.chainOnto level rule left state = Rule.chainOnto level rule further next := by
  rcases state.matchOperator_level level with ⟨none, -⟩ | ⟨operator, taken⟩
  · exact .inl (Rule.chainOnto_of_none none)
  · exact .inr ⟨_, _, .operand rule taken, Rule.chainOnto_of_some taken⟩

theorem prefixed_round :
    Rule.prefixed state = Rule.primary state ∨
      Rule.prefixed state =
        (.null, state.consume.complain .nestsTooDeeply state.consume.current) ∨
      ∃ operator next, GoesOn state next ∧
        Rule.prefixed state = (.unary operator (Rule.prefixed next).1,
          (Rule.prefixed next).2.nest ((Rule.prefixed next).2.nesting - 1)) := by
  rcases state.matchOperator_prefix with ⟨none, -⟩ | ⟨operator, taken⟩
  · exact .inl (Rule.prefixed_of_none none)
  · by_cases deep : Rule.nestingLimit ≤ state.consume.nesting
    · exact .inr (.inl (Rule.prefixed_of_deep taken deep))
    · exact .inr (.inr ⟨operator, _, .operator taken deep, Rule.prefixed_of_some taken deep⟩)

theorem unrolled : Unrolled where
  statements seen state := statementsOnto_round state seen
  boundary := skipToBoundary_round
  chain level rule left state := chainOnto_round state level rule left
  operators := prefixed_round

end Rounds

/-- Every round uses up a token that was not read before. -/
theorem GoesOn.remaining {before after : ParseState} (goesOn : GoesOn before after) :
    after.remaining < before.remaining := by
  cases goesOn with
  | statement notEnd =>
    have read := ParseState.statement_remaining before notEnd
    exact Nat.lt_of_le_of_lt (ParseState.follows_settle _).remaining read
  | skip notEnd => exact ParseState.consume_remaining before notEnd
  | operand rule taken =>
    have read := ParseState.matchOperator_remaining taken
    exact Nat.lt_of_le_of_lt (rule.follows _).remaining read
  | operator taken =>
    have read := ParseState.matchOperator_remaining taken
    exact read

theorem wellFounded_goesOn : WellFounded fun after before => GoesOn before after :=
  Subrelation.wf (fun goesOn => goesOn.remaining) (measure ParseState.remaining).wf

namespace ParseState

variable {state : ParseState} {tokens : List Token}

/-- What lies ahead only loses tokens from its front. -/
theorem invariant_proper_suffix (tokens : List Token) :
    Invariant fun state => state.Proper ∧ state.ahead <:+ tokens where
  consume {state} holds := by
    obtain ⟨proper, suffix⟩ := holds
    refine ⟨proper.consume, ?_⟩
    by_cases isEnd : state.current.isEnd
    · rwa [proper.ahead_of_isEnd isEnd]
    · rw [proper.ahead_of_notEnd isEnd] at suffix
      exact (List.suffix_cons ..).trans suffix
  complain holds diagnostic token := by
    refine ⟨holds.1.complain diagnostic token, ?_⟩
    rw [ahead, complain_current, complain_unread]
    exact holds.2
  nest holds nesting := ⟨holds.1.nest nesting, holds.2⟩

theorem Proper.settle_suffix (proper : state.Proper) : state.settle.ahead <:+ state.ahead :=
  ((invariant_proper_suffix state.ahead).settle (fun holds => ⟨holds.1.lowered, holds.2⟩)
    ⟨proper, List.suffix_refl _⟩).2

/-- Whether the expression consumed anything or not, looking for the semicolon consumes the token
that was ahead. -/
theorem Proper.terminated_suffix (proper : state.Proper) (notEnd : ¬ state.current.isEnd)
    (diagnostic : Diagnostic) :
    (state.terminated diagnostic).2.ahead <:+ state.consume.ahead := by
  have invariant := invariant_proper_suffix state.ahead
  obtain ⟨properRead, read⟩ := invariant.expression ⟨proper, List.suffix_refl _⟩
  have consumed : (Rule.expression.run state).2.consume.ahead <:+ state.consume.ahead := by
    rw [proper.ahead_of_notEnd notEnd, List.suffix_cons_iff] at read
    rcases read with nothing | some
    · have same := current_of_ahead nothing
      have notEnd' : ¬ (Rule.expression.run state).2.current.isEnd := same ▸ notEnd
      rw [properRead.ahead_of_notEnd notEnd'] at nothing
      exact (List.cons.inj nothing).2 ▸ List.suffix_refl _
    · exact ((invariant_proper_suffix _).consume ⟨properRead, some⟩).2
  change ((Rule.expression.run state).2.expect _ diagnostic).ahead <:+ _
  unfold expect
  dsimp only
  split
  · exact consumed
  · rwa [ahead, complain_current, complain_unread]

/-- A statement consumes the token that was ahead of it. -/
theorem Proper.statement_suffix (proper : state.Proper) (notEnd : ¬ state.current.isEnd) :
    state.statement.2.ahead <:+ state.consume.ahead := by
  rw [statement_eq]
  split
  · exact ((invariant_proper_suffix _).terminated ⟨proper.consume, List.suffix_refl _⟩ _).2
  · exact proper.terminated_suffix notEnd _

/-- Where the next statement begins, the first token of this one is consumed. -/
theorem Proper.settled_suffix (proper : state.Proper) (notEnd : ¬ state.current.isEnd) :
    state.statement.2.settle.ahead <:+ state.consume.ahead := by
  have properAfter := invariant_proper.statement proper
  exact properAfter.settle_suffix.trans (proper.statement_suffix notEnd)

/-- Each statement has a token of its own. -/
theorem Proper.heads_length (proper : state.Proper) :
    state.heads.length ≤ state.ahead.countP (! ·.isEnd) := by
  fun_induction heads state with
  | case1 => exact Nat.zero_le _
  | case2 state notEnd ih =>
    have onward := ih (invariant_proper.settle Proper.lowered (invariant_proper.statement proper))
    have fewer := (proper.settled_suffix notEnd).sublist.countP_le (p := (! ·.isEnd))
    have here : state.ahead.countP (! ·.isEnd) = state.consume.ahead.countP (! ·.isEnd) + 1 := by
      rw [proper.ahead_of_notEnd notEnd]
      simp [notEnd]
    rw [List.length_cons]
    omega

end ParseState

open ParseState

/-- Parsing makes progress and ends. Ahead of the first statement are the tokens of the source that
are no errors, and every round of the loop over statements consumes the token that was ahead, at
least. The rounds of this loop, of the other ones and of the recursion use the unread tokens up, so
that none of them goes on for ever. And so a source has not more statements than tokens, of those
that are neither errors nor the end of input. -/
theorem parse_progress (source : String) :
    let statements := (parseSource source).1.program.statements
    (ofSource source).ahead = withoutErrors (tokenize source) ∧
      statements = (ofSource source).heads.map (·.statement.1) ∧
      (∀ head ∈ (ofSource source).heads, ∃ passed,
        head.ahead = head.current :: (passed ++ head.statement.2.settle.ahead)) ∧
      Unrolled ∧
      (∀ before after, GoesOn before after → after.remaining < before.remaining) ∧
      (WellFounded fun after before => GoesOn before after) ∧
      statements.length ≤ (tokenize source).countP fun token => !token.isError && !token.isEnd := by
  intro statements
  have proper := proper_ofSource source
  have read : statements = (ofSource source).heads.map (·.statement.1) :=
    parseSource_statements source
  refine ⟨ahead_ofSource source, read, fun head among => ?_, unrolled, fun _ _ => GoesOn.remaining,
    wellFounded_goesOn, ?_⟩
  · have notEnd := heads_notEnd _ head among
    have properHead := invariant_proper.heads Proper.lowered proper head among
    obtain ⟨passed, split⟩ := properHead.settled_suffix notEnd
    exact ⟨passed, by rw [properHead.ahead_of_notEnd notEnd, split]⟩
  · have few := proper.heads_length
    rw [ahead_ofSource, withoutErrors, List.countP_filter] at few
    rw [read, List.length_map]
    simpa [Bool.and_comm] using few

end ScriptFront
