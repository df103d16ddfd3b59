import ScriptFront.Proofs.Grammar.Outcome

/-!
# Reading by the grammar

Every rule of a parse has an `Outcome`: the tokens that it consumed derive the tree that it gives,
or it complained where the stages of the grammar end. It is proved from the inside out, for
literals, operands, chains of operators, expressions and statements, and gives for a whole run
without error tokens either a program that its tokens derive or the first issue
(`outcome_program`).
-/
namespace ScriptFront

namespace Grammar

open ParseState

/-- No level of these has an operator ahead. -/
def Stops (levels : List Level) (state : ParseState) : Prop :=
  ∀ level ∈ levels, state.current.kind ∉ level.operators

/-- A parse takes the operators of the grammar in front of an operand. -/
theorem matchOperator_prefix_iff {state next : ParseState} {operator : Operator} :
    state.matchOperator prefixOperators = (some operator, next) ↔
      PrefixAs state.current.kind operator ∧ next = state.consume := by
  rw [matchOperator_eq_some_iff, prefixAs_iff, and_assoc]

/-- A parse takes the operators of the grammar between operands. -/
theorem matchOperator_infix_iff {level : Level} {state next : ParseState} {operator : Operator} :
    state.matchOperator level.operators = (some operator, next) ↔
      InfixAs level state.current.kind operator ∧ next = state.consume := by
  rw [matchOperator_eq_some_iff, infixAs_iff, and_assoc]

theorem isPrefix_eq_false {state : ParseState} (absent : state.current.kind ∉ prefixOperators) :
    state.current.kind.isPrefix = false := by
  by_contra isPrefix
  obtain ⟨operator, isPrefix⟩ := isPrefix_iff.mp (Bool.not_eq_false _ ▸ isPrefix)
  obtain ⟨among, kind⟩ := prefixAs_iff.mp isPrefix
  exact absent (kind ▸ among)

theorem isBinary_eq_false {state : ParseState} (stops : Stops levels state) :
    state.current.kind.isBinary = false := by
  by_contra isBinary
  obtain ⟨level, operator, isInfix⟩ := isBinary_iff.mp (Bool.not_eq_false _ ▸ isBinary)
  obtain ⟨among, kind⟩ := infixAs_iff.mp isInfix
  exact stops level (by cases level <;> decide) (kind ▸ among)

theorem outcome_primary {state : ParseState} (proper : state.Proper)
    (noPrefix : state.current.kind.isPrefix = false) :
    Outcome (IsOperand 0 · (Rule.primary state).1) (.operand state.nesting) state
      (Rule.primary state).2 := by
  have took (isLiteral : state.current.kind.isLiteral) :
      Took [state.current] state state.consume := by
    refine .consume proper fun isEnd => ?_
    have kind : state.current.kind = .endOfInput := by simpa [Token.isEnd] using isEnd
    simp [kind, Kind.isLiteral] at isLiteral
  unfold Rule.primary
  split
  case h_1 kind =>
    exact .read _ (.literal (.falseWord kind)) (took (by simp [kind, Kind.isLiteral]))
  case h_2 kind =>
    exact .read _ (.literal (.trueWord kind)) (took (by simp [kind, Kind.isLiteral]))
  case h_3 kind =>
    exact .read _ (.literal (.nullWord kind)) (took (by simp [kind, Kind.isLiteral]))
  case h_4 kind =>
    obtain ⟨value, read⟩ := proper.spelled.number kind
    simp only [consume_previous, read]
    exact .read _ (.literal (.number kind read)) (took (by simp [kind, Kind.isLiteral]))
  case h_5 kind =>
    obtain ⟨body, quoted⟩ := proper.spelled.string kind
    rw [Rule.unquoted_of_quoted quoted]
    exact .read _ (.literal (.string kind (by simpa using quoted)))
      (took (by simp [kind, Kind.isLiteral]))
  case h_6 noFalse noTrue noNull noNumber noString =>
    have noLiteral : state.current.kind.isLiteral = false := by
      unfold Kind.isLiteral
      split <;> simp_all
    have stuck : (Stage.operand state.nesting).next? state.current.kind = none := by
      simp [Stage.next?, Stage.inOperand?, noPrefix, noLiteral]
    obtain ⟨rest, split⟩ := ahead_eq_cons state
    have whole : state.ahead = [] ++ state.current :: rest := split
    exact .faulted (.complain (Took.refl state).advanced (.here whole rfl stuck (by decide)))

theorem outcome_deep {state next : ParseState} {Form : List Token → Prop}
    (took : Took [state.current] state next) (isPrefix : state.current.kind.isPrefix)
    (full : state.nesting = maxPrefixes) :
    Outcome Form (.operand state.nesting) state
      (next.complain .nestsTooDeeply next.current) := by
  obtain ⟨rest, split⟩ := ahead_eq_cons next
  have whole : state.ahead = [] ++ state.current :: next.current :: rest := by
    rw [took.ahead, split]
    rfl
  have stages : (Stage.operand state.nesting).after? [] = some (.operand maxPrefixes) := by
    rw [full]
    rfl
  exact .faulted (.complain took.advanced (.deep whole stages isPrefix))

theorem outcome_prefixed {state : ParseState} (proper : state.Proper)
    (few : state.nesting ≤ maxPrefixes) :
    Outcome
      (fun tokens => ∃ count, state.nesting + count ≤ maxPrefixes ∧
        IsOperand count tokens (Rule.prefixed state).1)
      (.operand state.nesting) state (Rule.prefixed state).2 := by
  induction size : state.remaining using Nat.strongRecOn generalizing state with
  | ind _ shorter =>
    rcases state.matchOperator_prefix with ⟨none, absent⟩ | ⟨operator, taken⟩
    · rw [Rule.prefixed_of_none none]
      exact (outcome_primary proper (isPrefix_eq_false absent)).prepend (.refl state) rfl
        fun tokens isOperand => ⟨0, few, isOperand⟩
    · obtain ⟨prefixAs, -⟩ := matchOperator_prefix_iff.mp taken
      have isPrefix : state.current.kind.isPrefix := isPrefix_iff.mpr ⟨operator, prefixAs⟩
      have took : Took [state.current] state state.consume :=
        .consume proper (matchOperator_next taken).2
      have depth := took.nesting
      have limit : Rule.nestingLimit = maxPrefixes := rfl
      by_cases deep : Rule.nestingLimit ≤ state.consume.nesting
      · rw [Rule.prefixed_of_deep taken deep]
        exact outcome_deep took isPrefix (by omega)
      · have fewer : (state.consume.nest (state.consume.nesting + 1)).remaining < _ :=
          size ▸ matchOperator_remaining taken
        have room : (state.consume.nest (state.consume.nesting + 1)).nesting ≤ maxPrefixes := by
          change state.consume.nesting + 1 ≤ maxPrefixes
          omega
        have inner := shorter _ fewer ((took.proper proper).nest _) room rfl
        have stages : (Stage.operand state.nesting).after? [state.current] =
            some (.operand (state.consume.nesting + 1)) := by
          have shallow : state.nesting < maxPrefixes := by omega
          simp [Stage.after?, Stage.next?, Stage.inOperand?, isPrefix, shallow]
        rw [Rule.prefixed_of_some taken deep]
        refine inner.unnest.prepend took stages ?_
        rintro tokens ⟨count, few, isOperand⟩
        change state.consume.nesting + 1 + count ≤ maxPrefixes at few
        exact ⟨count + 1, by omega, .unary prefixAs isOperand⟩

theorem outcome_chainOnto {level : Level} {tighter : List Level}
    (outcome_operand : ∀ {state : ParseState}, state.Proper → state.nesting = 0 →
      Outcome
        (fun tokens => Derives tighter tokens ((Rule.ofLevels tighter).run state).1 ∧
          Stops tighter ((Rule.ofLevels tighter).run state).2)
        (.operand 0) state ((Rule.ofLevels tighter).run state).2)
    {start state : ParseState} {left : Expression} {tokens : List Token}
    (derives : Derives (level :: tighter) tokens left) (took : Took tokens start state)
    (proper : state.Proper) (nesting : state.nesting = 0) (stops : Stops tighter state) :
    Outcome
      (fun tokens => Derives (level :: tighter) tokens
          (Rule.chainOnto level (Rule.ofLevels tighter) left state).1 ∧
        Stops (level :: tighter) (Rule.chainOnto level (Rule.ofLevels tighter) left state).2)
      (.operand 0) start (Rule.chainOnto level (Rule.ofLevels tighter) left state).2 := by
  induction size : state.remaining using Nat.strongRecOn generalizing tokens left state with
  | ind _ shorter =>
    rcases state.matchOperator_level level with ⟨none, absent⟩ | ⟨operator, taken⟩
    · rw [Rule.chainOnto_of_none none]
      refine .read tokens ⟨derives, ?_⟩ took
      intro other among
      rcases List.mem_cons.mp among with rfl | inside
      · exact absent
      · exact stops other inside
    · obtain ⟨isInfix, -⟩ := matchOperator_infix_iff.mp taken
      have tookOperator : Took (tokens ++ [state.current]) start state.consume :=
        took.trans (.consume proper (matchOperator_next taken).2)
      have properNext := proper.consume
      have nestingNext : state.consume.nesting = 0 := by rw [consume_nesting, nesting]
      rw [Rule.chainOnto_of_some taken]
      cases outcome_operand properNext nestingNext with
      | read right form tookRight =>
        have whole := tookOperator.trans tookRight
        rw [List.append_assoc] at whole
        have fewer := Nat.lt_of_le_of_lt
          ((Rule.ofLevels tighter).follows state.consume).remaining (matchOperator_remaining taken)
        exact shorter _ (size ▸ fewer) (.binary derives isInfix form.1) whole
          (tookRight.proper properNext) (tookRight.nesting.trans nestingNext) form.2 rfl
      | faulted faulted =>
        have isBinary := isBinary_iff.mpr ⟨_, _, isInfix⟩
        have stages : (Stage.operand 0).after? (tokens ++ [state.current]) = some (.operand 0) := by
          rw [Stage.after?_append_of_eq derives.stages]
          simp [Stage.after?, Stage.next?, not_isSemicolon_of_isBinary isBinary, isBinary]
        exact .faulted ((faulted.prepend tookOperator stages).onward (reports_chainOnto ..))

theorem outcome_ofLevels (levels : List Level) {state : ParseState} (proper : state.Proper)
    (nesting : state.nesting = 0) :
    Outcome
      (fun tokens => Derives levels tokens ((Rule.ofLevels levels).run state).1 ∧
        Stops levels ((Rule.ofLevels levels).run state).2)
      (.operand 0) state ((Rule.ofLevels levels).run state).2 := by
  induction levels generalizing state with
  | nil =>
    have outcome := outcome_prefixed proper (by omega)
    rw [nesting] at outcome
    refine outcome.prepend (.refl state) rfl ?_
    rintro tokens ⟨count, few, isOperand⟩
    exact ⟨.operand (by omega) isOperand, fun level among => by simp at among⟩
  | cons level tighter ih =>
    rw [Rule.ofLevels_cons_run]
    cases ih proper nesting with
    | read tokens form took =>
      exact outcome_chainOnto ih (.tighter form.1) took (took.proper proper)
        (took.nesting.trans nesting) form.2
    | faulted faulted => exact .faulted (faulted.onward (reports_chainOnto ..))

theorem outcome_expression {state : ParseState} (proper : state.Proper)
    (nesting : state.nesting = 0) :
    Outcome
      (fun tokens => IsExpression tokens (Rule.expression.run state).1 ∧
        Stops levels (Rule.expression.run state).2)
      (.operand 0) state (Rule.expression.run state).2 :=
  outcome_ofLevels levels proper nesting

/-- In front of a token that begins an expression, a statement goes on as an operand. -/
theorem next?_statement {kind : Kind} (notWord : kind ≠ .keyword .printWord)
    (notEnd : kind ≠ .endOfInput) :
    Stage.statement.next? kind = (Stage.operand 0).next? kind := by
  rw [Stage.next?, if_neg notWord, if_neg notEnd]
  rfl

theorem Fault.of_operand {first : Token} {rest : List Token} {diagnostic : Diagnostic}
    {token : Token} (notWord : first.kind ≠ .keyword .printWord)
    (notEnd : first.kind ≠ .endOfInput)
    (fault : Fault (.operand 0) (first :: rest) diagnostic token) :
    Fault .statement (first :: rest) diagnostic token := by
  have same (tokens : List Token) : Stage.statement.after? (first :: tokens) =
      (Stage.operand 0).after? (first :: tokens) := by
    rw [Stage.after?, Stage.after?, next?_statement notWord notEnd]
  cases fault with
  | @here before after _ reached _ split stages stuck other =>
    cases before with
    | nil =>
      obtain ⟨rfl, rfl⟩ := List.cons.inj split
      obtain rfl : Stage.operand 0 = reached := Option.some.inj stages
      rw [← next?_statement notWord notEnd] at stuck
      exact .here split rfl stuck other
    | cons head before =>
      obtain rfl : first = head := (List.cons.inj split).1
      exact .here split ((same before).trans stages) stuck other
  | @deep before after operator _ split stages isPrefix =>
    cases before with
    | nil => exact absurd stages (by decide)
    | cons head before =>
      obtain rfl : first = head := (List.cons.inj split).1
      exact .deep split ((same before).trans stages) isPrefix

theorem outcome_terminated {state : ParseState} (proper : state.Proper)
    (nesting : state.nesting = 0) {diagnostic : Diagnostic}
    (other : diagnostic ≠ .nestsTooDeeply) :
    Outcome
      (fun tokens => ∃ body last, tokens = body ++ [last] ∧ last.kind = .mark .semicolon ∧
        IsExpression body (state.terminated diagnostic).1)
      (.operand 0) state (state.terminated diagnostic).2 := by
  change Outcome _ _ _ ((Rule.expression.run state).2.expect (.mark .semicolon) diagnostic)
  cases outcome_expression proper nesting with
  | faulted faulted => exact .faulted (faulted.onward (reports_expect ..))
  | read tokens form took =>
    have properNext := took.proper proper
    unfold expect
    simp only [consume_previous]
    split
    next isLast =>
      have notEnd : ¬ (Rule.expression.run state).2.current.isEnd := by
        simp [Token.isEnd, isLast]
      exact .read _ ⟨tokens, _, rfl, isLast, form.1⟩ (took.trans (.consume properNext notEnd))
    next notLast =>
      obtain ⟨rest, ahead⟩ := ahead_eq_cons (Rule.expression.run state).2
      have stuck : Stage.operator.next? (Rule.expression.run state).2.current.kind = none := by
        simp [Stage.next?, notLast, isBinary_eq_false form.2]
      have fault : Fault (.operand 0) state.ahead diagnostic _ :=
        .here (took.ahead.trans (congrArg _ ahead)) form.1.stages stuck other
      -- The end of input can be consumed here as well, so this is no `Took`.
      have advanced :
          (Rule.expression.run state).2.consume = state.advance (tokens.length + 1) := by
        rw [advance_add, ← took.advanced]
        rfl
      exact .faulted (.complain advanced fault)

theorem outcome_statement {state : ParseState} (proper : state.Proper)
    (nesting : state.nesting = 0) (notEnd : ¬ state.current.isEnd) :
    Outcome (IsStatement · state.statement.1) .statement state state.statement.2 := by
  have kindNotEnd : state.current.kind ≠ .endOfInput := by simpa [Token.isEnd] using notEnd
  rw [statement_eq]
  split
  next isWord =>
    have took := Took.consume proper notEnd
    have stages : Stage.statement.after? [state.current] = some (.operand 0) := by
      simp [Stage.after?, Stage.next?, isWord]
    have inner := outcome_terminated proper.consume (took.nesting.trans nesting)
      (by decide : Diagnostic.expectedSemicolonAfterValue ≠ .nestsTooDeeply)
    refine inner.prepend took stages ?_
    rintro tokens ⟨body, last, rfl, isLast, isExpression⟩
    exact .print isWord isExpression isLast
  next notWord =>
    have inner := outcome_terminated proper nesting
      (by decide : Diagnostic.expectedSemicolonAfterExpression ≠ .nestsTooDeeply)
    cases inner with
    | read tokens form took =>
      obtain ⟨body, last, rfl, isLast, isExpression⟩ := form
      exact .read _ (.evaluate isExpression isLast) took
    | faulted faulted =>
      obtain ⟨rest, split⟩ := ahead_eq_cons state
      have fault := faulted.fault
      rw [split] at fault
      exact .faulted ⟨split ▸ fault.of_operand notWord kindNotEnd, faulted.alarmed,
        faulted.reports⟩

theorem settle_of_calm {state : ParseState} (calm : state.alarmed = false) :
    state.settle = state := by
  simp [settle, calm]

/-- A whole run without error tokens: either its tokens derive its trees, or the first issue is
where the stages of the grammar end. -/
theorem outcome_program {state : ParseState} (proper : state.Proper) (nesting : state.nesting = 0)
    (clean : state.Clean) (calm : state.alarmed = false) :
    (∃ body, IsProgram body state.trees ∧ Took body state state.finish) ∨
      ∃ diagnostic token later, Fault .statement state.ahead diagnostic token ∧
        state.finish.issues =
          later ++ ⟨.error, diagnostic.message, token⟩ :: state.issues := by
  fun_induction finish state with
  | case1 state isEnd =>
    refine .inl ⟨[], ?_, .refl state⟩
    rw [trees, heads_of_isEnd isEnd]
    exact .nil
  | case2 state notEnd ih =>
    cases outcome_statement proper nesting notEnd with
    | read tokens form took =>
      obtain ⟨cleanNext, alarmed, issues⟩ := took.clean clean
      rw [settle_of_calm (alarmed.trans calm)] at ih ⊢
      rw [trees, heads_of_notEnd notEnd, settle_of_calm (alarmed.trans calm)]
      rcases ih (took.proper proper) (took.nesting.trans nesting) cleanNext
          (alarmed.trans calm) with ⟨body, isProgram, tookBody⟩ | faulted
      · exact .inl ⟨tokens ++ body, .cons form isProgram, took.trans tookBody⟩
      · obtain ⟨diagnostic, token, later, fault, reported⟩ := faulted
        refine .inr ⟨diagnostic, token, later, ?_, issues ▸ reported⟩
        exact took.ahead ▸ fault.prepend form.stages
    | @faulted diagnostic token faulted =>
      have reported := faulted.reported clean calm
      have kept := invariant_issues_suffix state.statement.2.issues
      obtain ⟨later, whole⟩ := kept.finish id (kept.settle id (List.suffix_refl _))
      exact .inr ⟨diagnostic, token, later, faulted.fault, by rw [← whole, reported]⟩

end Grammar

end ScriptFront
