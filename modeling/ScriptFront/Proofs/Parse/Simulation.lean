import ScriptFront.Parse.Expression
import ScriptFront.Proofs.Parse.Ahead

/-!
# Two parses side by side

Reading an expression looks at the kind and the lexeme of the token ahead and at the nesting, and
does to the state nothing but consume, complain and count the nesting. A relation between two states
that settles what is looked at, and that these steps keep, is a `Simulation`: both states give the
same expression and stay related. No expression consumes a semicolon or the end of input, so that a
simulation has to keep up with consuming other tokens only.
-/
namespace ScriptFront

/-- Whether the token ends every expression before it. -/
def Token.closes (token : Token) : Bool := token.isEnd || token.kind == .mark .semicolon

namespace ParseState

theorem not_closes_of_operator {state : ParseState} {operator : Operator}
    (kind : state.current.kind = operator.kind) : ¬ state.current.closes := by
  cases operator <;> simp_all [Token.closes, Token.isEnd, Operator.kind, Operator.mark]

end ParseState

namespace Rule

theorem unquoted_of_quoted {lexeme : String} {body : List Char}
    (quoted : lexeme.toList = '"' :: (body ++ ['"'])) :
    unquoted lexeme = String.ofList body := by
  unfold unquoted
  simp [quoted]

section Equations

variable {level : Level} {operand : Rule} {left : Expression} {operator : Operator}
  {state next : ParseState}

theorem prefixed_of_none (none : state.matchOperator prefixOperators = (none, state)) :
    prefixed state = primary state := by
  rw [prefixed]
  split
  next again =>
    obtain rfl := (Prod.mk.inj (again.symm.trans none)).2
    rfl
  next taken => simp [none] at taken

theorem prefixed_of_deep (taken : state.matchOperator prefixOperators = (some operator, next))
    (deep : nestingLimit ≤ next.nesting) :
    prefixed state = (.null, next.complain .nestsTooDeeply next.current) := by
  rw [prefixed]
  split
  next none => simp [none] at taken
  next again =>
    obtain ⟨-, rfl⟩ := Prod.mk.inj (again.symm.trans taken)
    rw [if_pos deep]

theorem prefixed_of_some (taken : state.matchOperator prefixOperators = (some operator, next))
    (shallow : ¬ nestingLimit ≤ next.nesting) :
    prefixed state =
      (.unary operator (prefixed (next.nest (next.nesting + 1))).1,
        (prefixed (next.nest (next.nesting + 1))).2.nest
          ((prefixed (next.nest (next.nesting + 1))).2.nesting - 1)) := by
  rw [prefixed]
  split
  next none => simp [none] at taken
  next again =>
    obtain ⟨same, rfl⟩ := Prod.mk.inj (again.symm.trans taken)
    obtain rfl := Option.some.inj same
    rw [if_neg shallow]
    rfl

theorem chainOnto_of_none (none : state.matchOperator level.operators = (none, state)) :
    chainOnto level operand left state = (left, state) := by
  rw [chainOnto]
  split
  next again => rw [(Prod.mk.inj (again.symm.trans none)).2]
  next taken => simp [none] at taken

theorem chainOnto_of_some
    (taken : state.matchOperator level.operators = (some operator, next)) :
    chainOnto level operand left state =
      chainOnto level operand (.binary left operator (operand.run next).1)
        (operand.run next).2 := by
  rw [chainOnto]
  split
  next none => simp [none] at taken
  next again =>
    obtain ⟨same, rfl⟩ := Prod.mk.inj (again.symm.trans taken)
    obtain rfl := Option.some.inj same
    rfl

end Equations

/-- The rule of the levels in a list, the loosest first. -/
def ofLevels (levels : List Level) : Rule := levels.foldr chain unary

theorem expression_eq : expression = ofLevels Level.all := rfl

theorem ofLevels_cons_run (level : Level) (tighter : List Level) (state : ParseState) :
    (ofLevels (level :: tighter)).run state =
      chainOnto level (ofLevels tighter) ((ofLevels tighter).run state).1
        ((ofLevels tighter).run state).2 := rfl

end Rule

structure Simulation (R : ParseState → ParseState → Prop) : Prop where
  kind : ∀ {s t}, R s t → s.current.kind = t.current.kind
  lexeme : ∀ {s t}, R s t → s.current.lexeme = t.current.lexeme
  nesting : ∀ {s t}, R s t → s.nesting = t.nesting
  consume : ∀ {s t}, R s t → ¬ s.current.closes → R s.consume t.consume
  complain : ∀ {s t}, R s t → ∀ diagnostic ∈ [.expectedExpression, .nestsTooDeeply],
    R (s.complain diagnostic s.current) (t.complain diagnostic t.current)
  complainConsumed : ∀ {s t}, R s t → s.current.kind = .numericLiteral →
    literalValue? s.current.lexeme.toList = none →
    R (s.consume.complain .invalidNumber s.current)
      (t.consume.complain .invalidNumber t.current)
  nest : ∀ {s t}, R s t → ∀ nesting, R (s.nest nesting) (t.nest nesting)

/-- Two results with the same expression and related states. -/
def Agree (R : ParseState → ParseState → Prop) (left right : Expression × ParseState) : Prop :=
  left.1 = right.1 ∧ R left.2 right.2

namespace Simulation

open ParseState Rule

variable {R : ParseState → ParseState → Prop} {s t : ParseState} (simulation : Simulation R)

include simulation

theorem matchOperator (related : R s t) {kinds : List Kind} {operator : Operator}
    {next : ParseState} (taken : s.matchOperator kinds = (some operator, next)) :
    t.matchOperator kinds = (some operator, t.consume) ∧ R next t.consume := by
  obtain ⟨among, kind, rfl⟩ := matchOperator_eq_some_iff.mp taken
  have sameKind := (simulation.kind related).symm.trans kind
  exact ⟨matchOperator_eq_some_iff.mpr ⟨among, sameKind, rfl⟩,
    simulation.consume related (not_closes_of_operator kind)⟩

theorem matchOperator_none (related : R s t) {kinds : List Kind}
    (absent : s.current.kind ∉ kinds) : t.matchOperator kinds = (none, t) :=
  matchOperator_of_not_mem (simulation.kind related ▸ absent)

theorem primary (related : R s t) : Agree R (primary s) (primary t) := by
  have kinds := simulation.kind related
  have lexemes := simulation.lexeme related
  have consumed := simulation.consume related
  unfold Rule.primary
  rw [← kinds]
  split
  case h_1 kind => exact ⟨rfl, consumed (by simp [Token.closes, Token.isEnd, kind])⟩
  case h_2 kind => exact ⟨rfl, consumed (by simp [Token.closes, Token.isEnd, kind])⟩
  case h_3 kind => exact ⟨rfl, consumed (by simp [Token.closes, Token.isEnd, kind])⟩
  case h_4 kind =>
    have inside : ¬ s.current.closes := by simp [Token.closes, Token.isEnd, kind]
    simp only [consume_previous, ← lexemes]
    cases read : literalValue? s.current.lexeme.toList with
    | some value => exact ⟨rfl, consumed inside⟩
    | none => exact ⟨rfl, simulation.complainConsumed related kind read⟩
  case h_5 kind =>
    exact ⟨by rw [lexemes], consumed (by simp [Token.closes, Token.isEnd, kind])⟩
  case h_6 => exact ⟨rfl, simulation.complain related _ (by simp)⟩

theorem prefixed (related : R s t) : Agree R (prefixed s) (prefixed t) := by
  induction size : s.remaining using Nat.strongRecOn generalizing s t with
  | ind _ shorter =>
    rcases s.matchOperator_prefix with ⟨none, absent⟩ | ⟨operator, taken⟩
    · rw [prefixed_of_none none,
        prefixed_of_none (simulation.matchOperator_none related absent)]
      exact simulation.primary related
    · obtain ⟨taken', after⟩ := simulation.matchOperator related taken
      have depth := simulation.nesting after
      by_cases deep : nestingLimit ≤ s.consume.nesting
      · rw [prefixed_of_deep taken deep, prefixed_of_deep taken' (depth ▸ deep)]
        exact ⟨rfl, simulation.complain after _ (by simp)⟩
      · have fewer : (s.consume.nest (s.consume.nesting + 1)).remaining < _ :=
          size ▸ matchOperator_remaining taken
        have inner := shorter _ fewer (simulation.nest after (s.consume.nesting + 1)) rfl
        rw [prefixed_of_some taken deep, prefixed_of_some taken' (depth ▸ deep), ← depth]
        refine ⟨congrArg (Expression.unary operator) inner.1, ?_⟩
        rw [← simulation.nesting inner.2]
        exact simulation.nest inner.2 _

theorem chainOnto (level : Level) {operand : Rule}
    (operands : ∀ {s t}, R s t → Agree R (operand.run s) (operand.run t)) (left : Expression)
    (related : R s t) :
    Agree R (chainOnto level operand left s) (chainOnto level operand left t) := by
  induction size : s.remaining using Nat.strongRecOn generalizing left s t with
  | ind _ shorter =>
    rcases s.matchOperator_level level with ⟨none, absent⟩ | ⟨operator, taken⟩
    · rw [chainOnto_of_none none,
        chainOnto_of_none (simulation.matchOperator_none related absent)]
      exact ⟨rfl, related⟩
    · obtain ⟨taken', after⟩ := simulation.matchOperator related taken
      have right := operands after
      have fewer := Nat.lt_of_le_of_lt (operand.follows s.consume).remaining
        (matchOperator_remaining taken)
      rw [chainOnto_of_some taken, chainOnto_of_some taken', ← right.1]
      exact shorter _ (size ▸ fewer) _ right.2 rfl

theorem ofLevels (levels : List Level) (related : R s t) :
    Agree R ((ofLevels levels).run s) ((ofLevels levels).run t) := by
  induction levels generalizing s t with
  | nil => exact simulation.prefixed related
  | cons level tighter ih =>
    have first := ih related
    have chained := simulation.chainOnto level ih ((Rule.ofLevels tighter).run s).1 first.2
    rw [ofLevels_cons_run, ofLevels_cons_run, ← first.1]
    exact chained

theorem expression (related : R s t) : Agree R (expression.run s) (expression.run t) :=
  simulation.ofLevels Level.all related

end Simulation

end ScriptFront
