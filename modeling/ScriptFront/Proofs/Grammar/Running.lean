import ScriptFront.Proofs.Grammar.Reading

/-!
# Running on a derivation

A parse in front of tokens that the grammar derives reads just their tree. The induction is on the
derivation; at a level of operators the invariant is that the rule has come as far as a chain with
the tree as its left operand (`Derives.run`).
-/
namespace ScriptFront

namespace Grammar

open ParseState

variable {state next : ParseState} {tokens : List Token} {expression : Expression}

theorem IsLiteral.run {token : Token} {value : Expression} (isLiteral : IsLiteral token value)
    (current : state.current = token) : Rule.primary state = (value, state.consume) := by
  unfold Rule.primary
  cases isLiteral with
  | falseWord kind => simp [current, kind]
  | trueWord kind => simp [current, kind]
  | nullWord kind => simp [current, kind]
  | number kind read => simp [current, kind, read]
  | string kind quoted => simp [current, kind, Rule.unquoted_of_quoted quoted]

theorem not_mem_of_isLiteral (isLiteral : state.current.kind.isLiteral) :
    state.current.kind ∉ prefixOperators := by
  intro among
  obtain ⟨operator, found⟩ := Option.isSome_iff_exists.mp (Operator.prefixOperators_known _ among)
  rw [Operator.ofKind?_eq_some_iff.mp found] at isLiteral
  contradiction

theorem IsOperand.run {count : Nat} (isOperand : IsOperand count tokens expression)
    (proper : state.Proper) (few : state.nesting + count ≤ maxPrefixes)
    (took : Took tokens state next) : Rule.prefixed state = (expression, next) := by
  induction isOperand generalizing state next with
  | literal isLiteral =>
    obtain ⟨current, -, rest⟩ := took.of_cons proper
    have noOperator := not_mem_of_isLiteral (current ▸ isLiteral.isLiteral_kind)
    rw [Rule.prefixed_of_none (matchOperator_of_not_mem noOperator), isLiteral.run current,
      rest.eq_of_nil]
  | @unary token operator count tokens operand isPrefix isOperand ih =>
    obtain ⟨rfl, -, rest⟩ := took.of_cons proper
    have taken := matchOperator_prefix_iff.mpr ⟨isPrefix, rfl⟩
    have depth : state.consume.nesting = state.nesting := consume_nesting state
    have shallow : ¬ Rule.nestingLimit ≤ state.consume.nesting := by
      change ¬ maxPrefixes ≤ _
      omega
    have room : (state.consume.nest (state.consume.nesting + 1)).nesting + count ≤ maxPrefixes := by
      change state.consume.nesting + 1 + count ≤ maxPrefixes
      omega
    have inner := ih (proper.consume.nest _) room (rest.nest _)
    rw [Rule.prefixed_of_some taken shallow, inner]
    refine Prod.ext rfl ?_
    change next.nest (state.consume.nesting + 1 - 1) = next
    rw [Nat.add_sub_cancel, ← rest.nesting]
    rfl

/-- How the rule of some levels goes on with the tree of the tighter ones. -/
def resume : List Level → Expression → ParseState → Expression × ParseState
  | [], expression, state => (expression, state)
  | level :: tighter, expression, state =>
    Rule.chainOnto level (Rule.ofLevels tighter) expression state

theorem resume_of_stops {levels : List Level} (stops : Stops levels state) :
    resume levels expression state = (expression, state) := by
  cases levels with
  | nil => rfl
  | cons level tighter =>
    exact Rule.chainOnto_of_none (matchOperator_of_not_mem (stops level List.mem_cons_self))

/-- In front of an operator of one level the others have nothing to take. -/
theorem stops_of_operator {levels : List Level} {operator : Operator} {level : Level}
    (isInfix : InfixAs level state.current.kind operator) (other : level ∉ levels) :
    Stops levels state := by
  obtain ⟨atLevel, kind⟩ := infixAs_iff.mp isInfix
  rintro tighter inside among
  rw [kind, Operator.kind_mem_operators_iff] at among
  have here := Operator.kind_mem_operators_iff.mp atLevel
  obtain rfl : level = tighter := Option.some.inj (here.symm.trans among)
  exact other inside

theorem Derives.run {levels : List Level} (derives : Derives levels tokens expression)
    (nodup : levels.Nodup) (proper : state.Proper) (nesting : state.nesting = 0)
    (took : Took tokens state next) (stops : Stops levels.tail next) :
    (Rule.ofLevels levels).run state = resume levels expression next := by
  induction derives generalizing state next with
  | operand few isOperand => exact isOperand.run proper (by omega) took
  | @tighter level tighter tokens expression derives ih =>
    have stops : Stops tighter next := stops
    have inner := ih nodup.of_cons proper nesting took fun other among =>
      stops other (List.mem_of_mem_tail among)
    rw [resume_of_stops stops] at inner
    rw [Rule.ofLevels_cons_run, inner]
    rfl
  | @binary level tighter token operator before after left right _ isInfix _ ihLeft ihRight =>
    have stops : Stops tighter next := stops
    obtain ⟨middle, tookLeft, onward⟩ := took.split proper
    have properMiddle := tookLeft.proper proper
    obtain ⟨current, -, tookRight⟩ := onward.of_cons properMiddle
    have isInfix : InfixAs level middle.current.kind operator := current ▸ isInfix
    have other : level ∉ tighter := (List.nodup_cons.mp nodup).1
    have first := ihLeft nodup proper nesting tookLeft (stops_of_operator isInfix other)
    have nestingRight : middle.consume.nesting = 0 := by
      rw [consume_nesting, tookLeft.nesting, nesting]
    have second := ihRight nodup.of_cons properMiddle.consume nestingRight tookRight
      fun other among => stops other (List.mem_of_mem_tail among)
    rw [resume_of_stops stops] at second
    have taken := matchOperator_infix_iff.mpr ⟨isInfix, rfl⟩
    rw [first, resume, Rule.chainOnto_of_some taken, second]
    rfl

theorem stops_of_isSemicolon (kind : state.current.kind = .mark .semicolon)
    (levels : List Level) : Stops levels state := by
  intro level _
  rw [kind]
  cases level <;> decide

theorem IsExpression.terminated {last : Token} (isExpression : IsExpression tokens expression)
    (isLast : last.kind = .mark .semicolon) (diagnostic : Diagnostic) (proper : state.Proper)
    (nesting : state.nesting = 0) (took : Took (tokens ++ [last]) state next) :
    state.terminated diagnostic = (expression, next) := by
  obtain ⟨middle, tookExpression, onward⟩ := took.split proper
  obtain ⟨current, -, rest⟩ := onward.of_cons (tookExpression.proper proper)
  have kind : middle.current.kind = .mark .semicolon := by rw [current, isLast]
  have read := isExpression.run (by decide) proper nesting tookExpression
    (stops_of_isSemicolon kind _)
  rw [resume_of_stops (stops_of_isSemicolon kind _), levels_eq, ← Rule.expression_eq] at read
  rw [ParseState.terminated, read]
  simp [expect, kind, rest.eq_of_nil]

theorem IsStatement.run {statement : Statement} (isStatement : IsStatement tokens statement)
    (proper : state.Proper) (nesting : state.nesting = 0) (took : Took tokens state next) :
    state.statement = (statement, next) := by
  cases isStatement with
  | print isWord isExpression isLast =>
    obtain ⟨rfl, -, onward⟩ := took.of_cons proper
    have inner := isExpression.terminated isLast .expectedSemicolonAfterValue proper.consume
      ((consume_nesting state).trans nesting) onward
    rw [statement_eq, if_pos isWord, inner]
  | evaluate isExpression isLast =>
    have inner := isExpression.terminated isLast .expectedSemicolonAfterExpression proper nesting
      took
    obtain ⟨first, rest, stage, rfl, begun⟩ := isExpression.begins
    obtain ⟨rfl, -, -⟩ := took.of_cons proper
    have notWord := (Stage.begins_operand begun).1
    rw [statement_eq, if_neg notWord, inner]

/-- A statement begins with a token that is not the end of input. -/
theorem IsStatement.notEnd {statement : Statement} (isStatement : IsStatement tokens statement)
    (proper : state.Proper) (took : Took tokens state next) : ¬ state.current.isEnd := by
  cases isStatement with
  | print => exact (took.of_cons proper).2.1
  | evaluate isExpression =>
    obtain ⟨first, rest, stage, rfl, begun⟩ := isExpression.begins
    exact (took.of_cons proper).2.1

/-- A parse reads the statements that the grammar derives and goes on in front of what follows. -/
theorem IsProgram.run_onward {statements : List Statement}
    (isProgram : IsProgram tokens statements) (proper : state.Proper) (nesting : state.nesting = 0)
    (took : Took tokens state next) (calm : next.alarmed = false) :
    state.trees = statements ++ next.trees ∧ state.finish = next.finish := by
  induction isProgram generalizing state with
  | nil =>
    obtain rfl := took.eq_of_nil
    exact ⟨rfl, rfl⟩
  | cons isStatement _ ih =>
    obtain ⟨middle, tookFirst, onward⟩ := took.split proper
    have notEnd := isStatement.notEnd proper tookFirst
    -- An alarm in between would not have been lowered.
    have calmBetween : middle.alarmed = false := by
      by_contra alarmed
      have kept := (onward.reports.of_alarmed (by simpa using alarmed)).1
      simp [calm] at kept
    obtain ⟨trees', finish'⟩ :=
      ih (tookFirst.proper proper) (tookFirst.nesting.trans nesting) onward
    have read := isStatement.run proper nesting tookFirst
    rw [trees, heads_of_notEnd notEnd, finish_of_notEnd notEnd, List.map_cons, read,
      settle_of_calm calmBetween]
    exact ⟨congrArg _ trees', finish'⟩

theorem IsProgram.run {statements : List Statement} (isProgram : IsProgram tokens statements)
    (proper : state.Proper) (nesting : state.nesting = 0) (clean : state.Clean)
    (calm : state.alarmed = false) (took : Took tokens state next) (isEnd : next.current.isEnd) :
    state.trees = statements ∧ state.finish = next := by
  have calmAfter := (took.clean clean).2.1.trans calm
  obtain ⟨trees', finish'⟩ := isProgram.run_onward proper nesting took calmAfter
  have nothing : next.trees = [] := by rw [trees, heads_of_isEnd isEnd, List.map_nil]
  rw [nothing, List.append_nil] at trees'
  exact ⟨trees', finish'.trans (finish_of_isEnd isEnd)⟩

end Grammar

end ScriptFront
