import ScriptFront.Proofs.Parse.Run
import ScriptFront.Proofs.Parse.Verdict
import ScriptFront.Proofs.Token.Munch

/-!
# Normal form

A tree without parentheses can be written down only if no operator stands below one that binds more
tightly, and none on the right below one of its own level. A parse gives no other trees, also where
it complains and goes on with `null` (`expressions_normal`): each rule gives a tree whose root is an
operator of its levels or an operand, whatever it finds.
-/
namespace ScriptFront

namespace Expression

/-- The operator at the root of a binary expression. -/
def root? : Expression → Option Operator
  | binary _ operator _ => some operator
  | _ => none

/-- How many operators stand one in front of the other at the root. -/
def prefixes : Expression → Nat
  | unary _ operand => operand.prefixes + 1
  | _ => 0

/-- Whether the root, if it is a binary operator, binds at least so tightly. -/
def Tight (tightness : Nat) (expression : Expression) : Prop :=
  ∀ operator ∈ expression.root?, ∃ level, operator.level? = some level ∧ tightness ≤ level.tightness

inductive Normal : Expression → Prop where
  | binary {left right : Expression} {operator : Operator} {level : Level}
      (atLevel : operator.level? = some level) (tight : left.Tight level.tightness)
      (tighter : right.Tight (level.tightness + 1)) (normalLeft : Normal left)
      (normalRight : Normal right) : Normal (.binary left operator right)
  | unary {operator : Operator} {operand : Expression}
      (isUnary : operator = .bang ∨ operator = .minus) (notBinary : operand.root? = none)
      (few : (unary operator operand).prefixes ≤ 200) (normal : Normal operand) :
      Normal (.unary operator operand)
  | bool {value : Bool} : Normal (.bool value)
  | null : Normal .null
  | number {value : Binary64} (isNumber : ¬ value.isNaN) (notNegative : ¬ value.isNegative) :
      Normal (.number value)
  | string {value : String} (noQuote : '"' ∉ value.toList) : Normal (.string value)

/-- What a rule for operands gives: at most so many operators in front of a literal. -/
structure NormalOperand (count : Nat) (expression : Expression) : Prop where
  normal : expression.Normal
  notBinary : expression.root? = none
  few : expression.prefixes ≤ count

/-- What a rule for binary operators of some levels gives. -/
structure NormalAt (levels : List Level) (expression : Expression) : Prop where
  normal : expression.Normal
  among : ∀ operator ∈ expression.root?, ∃ level ∈ levels, operator.level? = some level

theorem normalOperand_null (count : Nat) : NormalOperand count null :=
  ⟨.null, rfl, Nat.zero_le count⟩

theorem NormalOperand.unary {count : Nat} {operator : Operator} {operand : Expression}
    (isUnary : operator.isUnary) (inner : NormalOperand count operand) (few : count < 200) :
    NormalOperand (count + 1) (unary operator operand) := by
  have more : (Expression.unary operator operand).prefixes ≤ count + 1 :=
    Nat.succ_le_succ inner.few
  have known : operator = .bang ∨ operator = .minus := by
    cases operator <;> simp_all [Operator.isUnary]
  exact ⟨.unary known inner.notBinary (Nat.le_trans more few) inner.normal, rfl, more⟩

theorem NormalOperand.normalAt {count : Nat} {expression : Expression}
    (operand : NormalOperand count expression) : NormalAt [] expression :=
  ⟨operand.normal, by simp [operand.notBinary]⟩

section Levels

variable {level : Level} {tighter : List Level} {left right : Expression}

theorem NormalAt.loosen (normal : NormalAt tighter left) : NormalAt (level :: tighter) left := by
  refine ⟨normal.normal, fun operator root => ?_⟩
  obtain ⟨inner, among, atLevel⟩ := normal.among operator root
  exact ⟨inner, List.mem_cons_of_mem _ among, atLevel⟩

/-- Operators of a level associate to the left. -/
theorem NormalAt.binary {operator : Operator} (atLevel : operator.level? = some level)
    (ordered : (level :: tighter).Pairwise (·.tightness < ·.tightness))
    (normalLeft : NormalAt (level :: tighter) left) (normalRight : NormalAt tighter right) :
    NormalAt (level :: tighter) (binary left operator right) := by
  have behind := (List.pairwise_cons.mp ordered).1
  have tight : left.Tight level.tightness := by
    intro inner root
    obtain ⟨found, among, known⟩ := normalLeft.among inner root
    refine ⟨found, known, ?_⟩
    rcases List.mem_cons.mp among with rfl | later
    · exact Nat.le_refl _
    · exact Nat.le_of_lt (behind found later)
  have tightRight : right.Tight (level.tightness + 1) := by
    intro inner root
    obtain ⟨found, among, known⟩ := normalRight.among inner root
    exact ⟨found, known, behind found among⟩
  refine ⟨.binary atLevel tight tightRight normalLeft.normal normalRight.normal, ?_⟩
  intro root same
  obtain rfl : operator = root := Option.some.inj same
  exact ⟨level, List.mem_cons_self, atLevel⟩

end Levels

end Expression

/-! ## Literals -/

/-- No code above that of infinity is given, so that the sign and what is not a number stay out of
reach. -/
theorem Binary64.ofRatio_proper (numerator denominator : Nat) :
    ¬ (ofRatio numerator denominator).isNaN ∧ ¬ (ofRatio numerator denominator).isNegative := by
  obtain ⟨code, same, bounded⟩ : ∃ code, ofRatio numerator denominator = ofCode false code ∧
      code ≤ topField * fractionCount := ⟨_, rfl, Nat.min_le_right ..⟩
  have top : topField * fractionCount < signPlace := by decide
  have bits : (ofCode false code).bits.toNat = code := by
    have small : code < 2 ^ 64 := by
      have places : signPlace < 2 ^ 64 := by decide
      omega
    simpa [ofCode] using small
  have inner : code % signPlace = code := Nat.mod_eq_of_lt (by omega)
  simp only [same, isNaN, isNegative, Binary64.code, bits, inner, decide_eq_true_eq]
  omega

theorem literalValue?_ofRatio {literal : List Char} {value : Binary64}
    (read : literalValue? literal = some value) :
    ∃ numerator denominator, value = Binary64.ofRatio numerator denominator := by
  unfold literalValue? at read
  dsimp only at read
  split at read
  · simp at read
  · exact ⟨_, _, (Option.some.inj read).symm⟩
  · split at read
    · exact ⟨_, _, (Option.some.inj read).symm⟩
    · simp at read
  · simp at read

/-- Whether the token, if it is a string, has its quotes at the ends and nowhere else. -/
def Token.Closed (token : Token) : Prop :=
  token.kind = .stringLiteral → IsQuoted token.lexeme.toList

theorem closed_tokenize {source : String} {token : Token} (among : token ∈ tokenize source) :
    token.Closed := by
  intro isString
  have notEnd : ¬ token.isEnd := by simp [Token.isEnd, isString]
  have notError : ¬ token.isError := by simp [Token.isError, isString]
  have form := form_lexeme among notEnd notError
  rw [isString] at form
  exact form.isQuoted

theorem Token.Closed.noQuote {token : Token} (closed : token.Closed)
    (isString : token.kind = .stringLiteral) : '"' ∉ (Rule.unquoted token.lexeme).toList := by
  obtain ⟨body, quoted, inside⟩ := closed isString
  simpa [Rule.unquoted_of_quoted quoted] using inside

namespace ParseState

theorem mem_pull {state : ParseState} {tokens : List Token} {token : Token}
    (among : token ∈ (state.pull tokens).current :: (state.pull tokens).unread) :
    token = placeholder ∨ token ∈ tokens := by
  induction tokens generalizing state with
  | nil => exact .inl (List.mem_singleton.mp among)
  | cons first rest ih =>
    unfold pull at among
    dsimp only at among
    split at among
    · exact (ih among).imp_right (List.mem_cons_of_mem _)
    · rcases List.mem_cons.mp among with rfl | behind
      · exact .inr List.mem_cons_self
      · split at behind
        · exact .inr behind
        · exact .inr (List.mem_cons_of_mem _ behind)

/-- What holds of all tokens of a scan holds of those that a parse has not passed. -/
theorem invariant_tokens {P : Token → Prop} (none : P placeholder) :
    Invariant fun state => ∀ token ∈ state.current :: state.unread, P token where
  consume holds token among := by
    rcases mem_pull among with rfl | unread
    · exact none
    · exact holds token (List.mem_cons_of_mem _ unread)
  complain holds _ _ := by simpa using holds
  nest holds _ := holds

/-- No string is ahead that its quotes do not close. -/
def Closed (state : ParseState) : Prop := ∀ token ∈ state.current :: state.unread, token.Closed

theorem invariant_closed : Invariant Closed :=
  invariant_tokens (by simp [Token.Closed, placeholder])

theorem closed_ofSource (source : String) : (ofSource source).Closed := by
  refine invariant_closed.consume fun token among => ?_
  rcases List.mem_cons.mp among with rfl | scanned
  · simp [initial, Token.Closed, placeholder]
  · exact closed_tokenize scanned

end ParseState

namespace Rule

open Expression ParseState

variable {state : ParseState}

theorem primary_normal (closed : state.Closed) : NormalOperand 0 (primary state).1 := by
  unfold primary
  split
  · exact ⟨.bool, rfl, Nat.le_refl _⟩
  · exact ⟨.bool, rfl, Nat.le_refl _⟩
  · exact normalOperand_null 0
  · dsimp only
    split
    next value read =>
      obtain ⟨numerator, denominator, rfl⟩ := literalValue?_ofRatio read
      have proper := Binary64.ofRatio_proper numerator denominator
      exact ⟨.number proper.1 proper.2, rfl, Nat.le_refl _⟩
    · exact normalOperand_null 0
  next isString =>
    exact ⟨.string ((closed _ List.mem_cons_self).noQuote isString), rfl, Nat.le_refl _⟩
  · exact normalOperand_null 0

/-- The more operators are waiting for the operand, the fewer can begin it. -/
theorem prefixed_normal (closed : state.Closed) :
    NormalOperand (nestingLimit - state.nesting) (prefixed state).1 := by
  induction size : state.remaining using Nat.strongRecOn generalizing state with
  | ind _ shorter =>
    rcases state.matchOperator_prefix with ⟨none, -⟩ | ⟨operator, taken⟩
    · rw [prefixed_of_none none]
      have literal := primary_normal closed
      exact ⟨literal.normal, literal.notBinary, Nat.le_trans literal.few (Nat.zero_le _)⟩
    · obtain ⟨among, -, -⟩ := matchOperator_eq_some_iff.mp taken
      have isUnary := Operator.kind_mem_prefixOperators_iff.mp among
      have depth : state.consume.nesting = state.nesting := consume_nesting state
      by_cases deep : nestingLimit ≤ state.consume.nesting
      · -- What is beyond the limit is left out, and with it the operator that was taken.
        rw [prefixed_of_deep taken deep]
        exact normalOperand_null _
      · have fewer : (state.consume.nest (state.consume.nesting + 1)).remaining < _ :=
          size ▸ matchOperator_remaining taken
        have closedNext : (state.consume.nest (state.consume.nesting + 1)).Closed :=
          invariant_closed.nest (invariant_closed.consume closed) _
        have inner := shorter _ fewer closedNext rfl
        change NormalOperand (nestingLimit - (state.consume.nesting + 1)) _ at inner
        rw [prefixed_of_some taken deep, ← depth]
        have count : nestingLimit - (state.consume.nesting + 1) + 1 =
            nestingLimit - state.consume.nesting := by omega
        exact count ▸ inner.unary isUnary (by rw [nestingLimit]; omega)

theorem closed_ofLevels (levels : List Level) (closed : state.Closed) :
    ((ofLevels levels).run state).2.Closed :=
  (invariant_closed.onExpression.simulation.ofLevels levels ⟨rfl, closed⟩).2.2

theorem chainOnto_normal {level : Level} {tighter : List Level}
    (ordered : (level :: tighter).Pairwise (·.tightness < ·.tightness))
    (operands : ∀ {state : ParseState}, state.Closed →
      NormalAt tighter ((ofLevels tighter).run state).1)
    {left : Expression} (normal : NormalAt (level :: tighter) left) (closed : state.Closed) :
    NormalAt (level :: tighter) (chainOnto level (ofLevels tighter) left state).1 := by
  fun_induction chainOnto level (ofLevels tighter) left state with
  | case1 => exact normal
  | case2 left state operator next taken right ih =>
    obtain ⟨among, -, rfl⟩ := matchOperator_eq_some_iff.mp taken
    have atLevel := Operator.kind_mem_operators_iff.mp among
    have closedNext := invariant_closed.consume closed
    exact ih (normal.binary atLevel ordered (operands closedNext))
      (closed_ofLevels tighter closedNext)

theorem ofLevels_normal {levels : List Level}
    (ordered : levels.Pairwise (·.tightness < ·.tightness)) (closed : state.Closed) :
    NormalAt levels ((ofLevels levels).run state).1 := by
  induction levels generalizing state with
  | nil => exact (prefixed_normal closed).normalAt
  | cons level tighter ih =>
    have operands {state : ParseState} (closed : state.Closed) :
        NormalAt tighter ((ofLevels tighter).run state).1 :=
      ih (List.pairwise_cons.mp ordered).2 closed
    rw [ofLevels_cons_run]
    exact chainOnto_normal ordered operands (operands closed).loosen
      (closed_ofLevels tighter closed)

theorem expression_normal (closed : state.Closed) : (expression.run state).1.Normal := by
  have ordered : Level.all.Pairwise (·.tightness < ·.tightness) := by decide
  exact (ofLevels_normal ordered closed).normal

end Rule

namespace ParseState

theorem statement_normal {state : ParseState} (closed : state.Closed) :
    state.statement.1.expression.Normal := by
  rw [statement_eq]
  split
  · exact Rule.expression_normal (invariant_closed.consume closed)
  · exact Rule.expression_normal closed

/-- What is in a program was read where every string ahead is closed. -/
theorem exists_closed_statement {source : String} {statement : Statement}
    (among : statement ∈ (parseSource source).1.program.statements) :
    ∃ state : ParseState, state.Closed ∧ state.statement.1 = statement := by
  rw [parseSource_program, parse_statements] at among
  obtain ⟨head, met, same⟩ := List.mem_map.mp among
  exact ⟨head, invariant_closed.heads id (closed_ofSource source) head met, same⟩

end ParseState

/-- Every expression of a program is in normal form, also where the source has errors. -/
theorem expressions_normal (source : String) :
    ∀ statement ∈ (parseSource source).1.program.statements, statement.expression.Normal := by
  intro statement among
  rw [parseSource_program, parse_statements] at among
  obtain ⟨head, met, rfl⟩ := List.mem_map.mp among
  exact ParseState.statement_normal
    (ParseState.invariant_closed.heads id (ParseState.closed_ofSource source) head met)

theorem expressions_normal_missing_operands :
    let tree : Expression :=
      .binary
        (.binary (.unary .minus (.number (.ofRatio 1 1))) .plus
          (.binary .null .star (.number (.ofRatio 2 1))))
        .less .null
    .evaluate tree ∈ (parseSource "-1 + * 2 < ;").1.program.statements ∧ tree.Normal := by
  intro tree
  have among : .evaluate tree ∈ (parseSource "-1 + * 2 < ;").1.program.statements := by
    decide +kernel
  exact ⟨among, expressions_normal "-1 + * 2 < ;" (.evaluate tree) among⟩

end ScriptFront
