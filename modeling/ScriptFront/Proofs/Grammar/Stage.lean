import ScriptFront.Proofs.Grammar.Derivation

/-!
# Where a program can go on

The levels of operators say which tree some tokens stand for, not which tokens may follow each
other: for that it is enough to know the `Stage` reached, and each token leads from one stage to the
next or to none. Every source of the grammar leads through stages to its end (`IsSource.stages`), so
tokens that lead to no stage begin no source (`Viable.stages`).
-/
namespace ScriptFront

/-- Whether the token can stand in front of an operand. -/
def Kind.isPrefix : Kind → Bool
  | .mark .exclamation | .mark .minus => true
  | _ => false

/-- Whether the token can stand between operands. -/
def Kind.isBinary : Kind → Bool
  | .mark .exclamationEquals | .mark .equalsEquals => true
  | .mark .greaterThan | .mark .greaterThanEquals | .mark .lessThan | .mark .lessThanEquals => true
  | .mark .minus | .mark .plus => true
  | .mark .slash | .mark .asterisk => true
  | _ => false

namespace Grammar

inductive Stage where
  /-- In front of a statement. -/
  | statement
  /-- In front of an operand or inside of one, after so many operators. -/
  | operand (prefixes : Nat)
  /-- After an operand. -/
  | operator
  /-- After the end of input. -/
  | ended
  deriving DecidableEq, Repr

namespace Stage

def inOperand? (prefixes : Nat) (kind : Kind) : Option Stage :=
  if kind.isPrefix then if prefixes < maxPrefixes then some (operand (prefixes + 1)) else none
  else if kind.isLiteral then some operator
  else none

/-- The stage after a token of this kind, if it can stand here. -/
def next? : Stage → Kind → Option Stage
  | statement, kind =>
    if kind = .keyword .printWord then some (operand 0)
    else if kind = .endOfInput then some ended
    else inOperand? 0 kind
  | operand prefixes, kind => inOperand? prefixes kind
  | operator, kind =>
    if kind = .mark .semicolon then some statement
    else if kind.isBinary then some (operand 0)
    else none
  | ended, _ => none

/-- The stage after some tokens, if they can stand here. -/
def after? (stage : Stage) : List Token → Option Stage
  | [] => some stage
  | token :: tokens => (stage.next? token.kind).bind (after? · tokens)

theorem after?_append (stage : Stage) (before after : List Token) :
    stage.after? (before ++ after) = (stage.after? before).bind (after? · after) := by
  induction before generalizing stage with
  | nil => rfl
  | cons token before ih =>
    rw [List.cons_append, after?, after?]
    cases stage.next? token.kind with
    | none => rfl
    | some next => exact ih next

theorem after?_append_of_eq {stage middle : Stage} {before : List Token}
    (reached : stage.after? before = some middle) (after : List Token) :
    stage.after? (before ++ after) = middle.after? after := by
  rw [after?_append, reached]
  rfl

/-- Tokens lead from a stage to its end only through stages. -/
theorem isSome_after?_of_append {stage : Stage} {before : List Token} (after : List Token)
    (reached : (stage.after? (before ++ after)).isSome) : (stage.after? before).isSome := by
  rw [after?_append] at reached
  cases first : stage.after? before with
  | none => simp [first] at reached
  | some _ => rfl

/-- No word and no end of input begins an operand. -/
theorem begins_operand {kind : Kind} {stage : Stage} (next : (operand 0).next? kind = some stage) :
    kind ≠ .keyword .printWord ∧ kind ≠ .endOfInput := by
  have word : (operand 0).next? (.keyword .printWord) = none := by decide
  have ending : (operand 0).next? .endOfInput = none := by decide
  constructor
  · rintro rfl
    simp [word] at next
  · rintro rfl
    simp [ending] at next

/-- What can begin an operand can begin a statement. -/
theorem next?_statement_of_operand {kind : Kind} {stage : Stage}
    (next : (operand 0).next? kind = some stage) : statement.next? kind = some stage := by
  obtain ⟨notWord, notEnd⟩ := begins_operand next
  rw [next?, if_neg notWord, if_neg notEnd]
  exact next

theorem after?_statement_of_operand {first : Token} {rest : List Token} {reached : Stage}
    (stages : (operand 0).after? (first :: rest) = some reached) :
    statement.after? (first :: rest) = some reached := by
  cases begun : (operand 0).next? first.kind with
  | none => simp [after?, begun] at stages
  | some stage =>
    rw [after?, begun] at stages
    rw [after?, next?_statement_of_operand begun]
    exact stages

end Stage

theorem isPrefix_iff {kind : Kind} : kind.isPrefix ↔ ∃ operator, PrefixAs kind operator := by
  constructor
  · intro isPrefix
    unfold Kind.isPrefix at isPrefix
    split at isPrefix
    · exact ⟨_, .bang⟩
    · exact ⟨_, .minus⟩
    · contradiction
  · rintro ⟨_, _ | _⟩ <;> rfl

theorem isBinary_iff {kind : Kind} :
    kind.isBinary ↔ ∃ level operator, InfixAs level kind operator := by
  constructor
  · intro isBinary
    unfold Kind.isBinary at isBinary
    split at isBinary
    case h_11 => contradiction
    all_goals exact ⟨_, _, by constructor⟩
  · rintro ⟨_, _, _ | _⟩ <;> rfl

theorem not_isPrefix_of_isLiteral {kind : Kind} (isLiteral : kind.isLiteral) :
    kind.isPrefix = false := by
  by_contra isPrefix
  obtain ⟨operator, isPrefix⟩ := isPrefix_iff.mp (Bool.not_eq_false _ ▸ isPrefix)
  simp [isPrefix.isLiteral] at isLiteral

theorem not_isSemicolon_of_isBinary {kind : Kind} (isBinary : kind.isBinary) :
    kind ≠ .mark .semicolon := by
  rintro rfl
  contradiction

open Stage

theorem IsOperand.stages {count : Nat} {tokens : List Token} {operand : Expression}
    (isOperand : IsOperand count tokens operand) {prefixes : Nat}
    (few : prefixes + count ≤ maxPrefixes) :
    (Stage.operand prefixes).after? tokens = some .operator := by
  induction isOperand generalizing prefixes with
  | literal isLiteral =>
    have isLiteral := isLiteral.isLiteral_kind
    simp [after?, next?, inOperand?, not_isPrefix_of_isLiteral isLiteral, isLiteral]
  | unary isPrefix _ ih =>
    have room : prefixes < maxPrefixes := by omega
    rw [after?, next?, inOperand?, if_pos (isPrefix_iff.mpr ⟨_, isPrefix⟩), if_pos room]
    exact ih (by omega)

theorem Derives.stages {levels : List Level} {tokens : List Token} {expression : Expression}
    (derives : Derives levels tokens expression) :
    (Stage.operand 0).after? tokens = some .operator := by
  induction derives with
  | operand few isOperand => exact isOperand.stages (by omega)
  | tighter _ ih => exact ih
  | binary _ isInfix _ left right =>
    have isBinary := isBinary_iff.mpr ⟨_, _, isInfix⟩
    rw [after?_append_of_eq left, after?, next?,
      if_neg (not_isSemicolon_of_isBinary isBinary), if_pos isBinary]
    exact right

theorem Derives.begins {levels : List Level} {tokens : List Token} {expression : Expression}
    (derives : Derives levels tokens expression) :
    ∃ first rest stage, tokens = first :: rest ∧
      (Stage.operand 0).next? first.kind = some stage := by
  have stages := derives.stages
  cases tokens with
  | nil => simp [after?] at stages
  | cons first rest =>
    cases begun : (Stage.operand 0).next? first.kind with
    | none => simp [after?, begun] at stages
    | some stage => exact ⟨first, rest, stage, rfl, begun⟩

theorem IsStatement.stages {tokens : List Token} {statement : Statement}
    (isStatement : IsStatement tokens statement) :
    Stage.statement.after? tokens = some .statement := by
  cases isStatement with
  | print isWord isExpression isLast =>
    rw [after?, next?, if_pos isWord]
    exact (after?_append_of_eq isExpression.stages _).trans (by simp [after?, next?, isLast])
  | evaluate isExpression isLast =>
    obtain ⟨first, rest, _, rfl, _⟩ := isExpression.begins
    have stages := after?_statement_of_operand isExpression.stages
    exact (after?_append_of_eq stages _).trans (by simp [after?, next?, isLast])

theorem IsProgram.stages {tokens : List Token} {statements : List Statement}
    (isProgram : IsProgram tokens statements) :
    Stage.statement.after? tokens = some .statement := by
  induction isProgram with
  | nil => rfl
  | cons isStatement _ ih => exact (after?_append_of_eq isStatement.stages _).trans ih

theorem IsSource.stages {tokens : List Token} {program : Program}
    (isSource : IsSource tokens program) : Stage.statement.after? tokens = some .ended := by
  obtain ⟨body, last, rfl, isEnd, isProgram⟩ := isSource
  have kind : last.kind = .endOfInput := by simpa [Token.isEnd] using isEnd
  rw [after?_append_of_eq isProgram.stages]
  simp [after?, next?, kind]

theorem Viable.stages {tokens : List Token} (viable : Viable tokens) :
    (Stage.statement.after? tokens).isSome := by
  obtain ⟨more, program, isSource⟩ := viable
  exact isSome_after?_of_append more (by rw [isSource.stages]; rfl)

end Grammar

end ScriptFront
