import ScriptFront.Proofs.Grammar.Recognition

/-!
# The leftmost error

Tokens that lead to a stage are viable: every stage has tokens with which a source can end
(`viable_of_stages`). So the first issue of a source without error tokens blames the token with
which it left the grammar, and none before it. Too many operators in front of an operand are blamed
on the token after the operator that was too many (`firstIssue_leftmost`).
-/
namespace ScriptFront

theorem Diagnostic.code_eq_nestsTooDeeply {diagnostic : Diagnostic} :
    diagnostic.code = 1105 ↔ diagnostic = .nestsTooDeeply := by
  cases diagnostic <;> simp [code]

namespace Grammar

open Stage ParseState

theorem next?_error (stage : Stage) : stage.next? .error = none := by
  cases stage with
  | statement => rfl
  | operand prefixes => rfl
  | operator => rfl
  | ended => rfl

theorem not_isError_of_next? {stage next : Stage} {token : Token}
    (leads : stage.next? token.kind = some next) : ¬ token.isError := by
  intro isError
  have kind : token.kind = .error := by simpa [Token.isError] using isError
  rw [kind, next?_error] at leads
  contradiction

theorem not_isError_of_stages {stage : Stage} {tokens : List Token}
    (reached : (stage.after? tokens).isSome) : ∀ token ∈ tokens, ¬ token.isError := by
  induction tokens generalizing stage with
  | nil => simp
  | cons first rest ih =>
    cases leads : stage.next? first.kind with
    | none => simp [after?, leads] at reached
    | some next =>
      rw [after?, leads] at reached
      intro token among
      rcases List.mem_cons.mp among with rfl | inside
      · exact not_isError_of_next? leads
      · exact ih reached token inside

theorem inOperand?_ne_ended (prefixes : Nat) (kind : Kind) :
    inOperand? prefixes kind ≠ some .ended := by
  unfold inOperand?
  split
  · split <;> simp
  · split <;> simp

/-- Only the end of input leads to the last stage. -/
theorem next?_ne_ended {kind : Kind} (notEnd : kind ≠ .endOfInput) (stage : Stage) :
    stage.next? kind ≠ some .ended := by
  cases stage with
  | statement =>
    rw [next?, if_neg notEnd]
    split
    · simp
    · exact inOperand?_ne_ended 0 kind
  | operand prefixes => exact inOperand?_ne_ended prefixes kind
  | operator =>
    rw [next?]
    split
    · simp
    · split <;> simp
  | ended => simp [next?]

theorem after?_ne_ended {stage : Stage} {tokens : List Token} (notYet : stage ≠ .ended)
    (inner : ∀ token ∈ tokens, token.Inner) : stage.after? tokens ≠ some .ended := by
  induction tokens generalizing stage with
  | nil => simpa [after?] using notYet
  | cons first rest ih =>
    have kind : first.kind ≠ .endOfInput := by
      simpa [Token.isEnd] using (inner first List.mem_cons_self).1
    cases leads : stage.next? first.kind with
    | none => simp [after?, leads]
    | some next =>
      rw [after?, leads]
      refine ih ?_ fun token among => inner token (List.mem_cons_of_mem _ among)
      rintro rfl
      exact next?_ne_ended kind stage leads

/-- Tokens with which a source can end from a stage on. -/
def Stage.completion : Stage → List Token
  | statement => [ending]
  | operand _ => [⟨.keyword .nullWord, "null", 0, 4, 1⟩, semicolon, ending]
  | operator => [semicolon, ending]
  | ended => []
where
  semicolon : Token := ⟨.mark .semicolon, ";", 0, 1, 1⟩
  ending : Token := ⟨.endOfInput, "", 0, 0, 1⟩

theorem Stage.after?_completion (stage : Stage) :
    stage.after? stage.completion = some .ended := by
  cases stage with
  | statement => rfl
  | operand prefixes => rfl
  | operator => rfl
  | ended => rfl

theorem Stage.stream_completion {stage : Stage} (notYet : stage ≠ .ended) :
    Stream stage.completion := by
  have ends : Stream [completion.ending] := .ends rfl
  have closed : Stream [completion.semicolon, completion.ending] :=
    .goesOn (by decide) (Token.spelled_of_kind (by decide) (by decide)) ends
  cases stage with
  | statement => exact ends
  | operand prefixes =>
    exact .goesOn (by decide) (Token.spelled_of_kind (by decide) (by decide)) closed
  | operator => exact closed
  | ended => contradiction

/-- Tokens that lead to a stage begin a source. -/
theorem viable_of_stages {tokens : List Token} {reached : Stage}
    (stages : Stage.statement.after? tokens = some reached)
    (inner : ∀ token ∈ tokens, token.Inner) : Viable tokens := by
  have beginning : Stage.statement ≠ .ended := by decide
  have notYet : reached ≠ .ended := by
    rintro rfl
    exact after?_ne_ended beginning inner stages
  have whole : Stage.statement.after? (tokens ++ reached.completion) = some .ended :=
    (after?_append_of_eq stages _).trans reached.after?_completion
  have stream := Stream.append inner (reached.stream_completion notYet)
  have clean := not_isError_of_stages (Option.isSome_of_eq_some whole)
  rcases outcome_tokens stream clean with isSource | ⟨diagnostic, token, later, fault, -⟩
  · exact ⟨reached.completion, _, isSource⟩
  · have stuck := fault.after?_eq_none
    rw [whole] at stuck
    contradiction

theorem inner_of_kind {token : Token} (notEnd : token.kind ≠ .endOfInput)
    (notNumber : token.kind ≠ .numericLiteral) (notString : token.kind ≠ .stringLiteral) :
    token.Inner :=
  ⟨by simpa [Token.isEnd] using notEnd, Token.spelled_of_kind notNumber notString⟩

theorem IsLiteral.inner {token : Token} {value : Expression} (isLiteral : IsLiteral token value) :
    token.Inner := by
  cases isLiteral with
  | falseWord kind => exact inner_of_kind (by simp [kind]) (by simp [kind]) (by simp [kind])
  | trueWord kind => exact inner_of_kind (by simp [kind]) (by simp [kind]) (by simp [kind])
  | nullWord kind => exact inner_of_kind (by simp [kind]) (by simp [kind]) (by simp [kind])
  | number kind read =>
    exact ⟨by simp [Token.isEnd, kind], fun _ => ⟨_, read⟩, fun string => by simp [kind] at string⟩
  | string kind quoted =>
    exact ⟨by simp [Token.isEnd, kind], fun number => by simp [kind] at number,
      fun _ => ⟨_, quoted⟩⟩

theorem IsOperand.inner {count : Nat} {tokens : List Token} {operand : Expression}
    (isOperand : IsOperand count tokens operand) : ∀ token ∈ tokens, token.Inner := by
  induction isOperand with
  | literal isLiteral =>
    intro token among
    exact List.mem_singleton.mp among ▸ isLiteral.inner
  | unary isPrefix _ ih =>
    intro token among
    rcases List.mem_cons.mp among with rfl | inside
    · obtain ⟨-, kind⟩ := prefixAs_iff.mp isPrefix
      exact inner_of_kind (by simp [kind, Operator.kind]) (by simp [kind, Operator.kind])
        (by simp [kind, Operator.kind])
    · exact ih token inside

/-- Whether any operand, with operators in front of it, can follow these tokens. -/
def OperandPosition (tokens : List Token) : Prop :=
  ∀ count more operand, count ≤ maxPrefixes → IsOperand count more operand →
    Viable (tokens ++ more)

theorem operandPosition_of_stages {tokens : List Token} {reached : Stage}
    (stages : Stage.statement.after? tokens = some reached)
    (begins : reached = .statement ∨ reached = .operand 0)
    (inner : ∀ token ∈ tokens, token.Inner) : OperandPosition tokens := by
  intro count more operand few isOperand
  have derives : Derives [] more operand := .operand few isOperand
  have after : reached.after? more = some .operator := by
    rcases begins with rfl | rfl
    · obtain ⟨first, rest, _, rfl, _⟩ := derives.begins
      exact after?_statement_of_operand derives.stages
    · exact derives.stages
  refine viable_of_stages ((after?_append_of_eq stages _).trans after) ?_
  intro token among
  rcases List.mem_append.mp among with before | inside
  · exact inner token before
  · exact isOperand.inner token inside

theorem inOperand?_eq_operand {prefixes count : Nat} {kind : Kind}
    (leads : inOperand? prefixes kind = some (.operand count)) :
    kind.isPrefix ∧ count = prefixes + 1 := by
  unfold inOperand? at leads
  split at leads
  next isPrefix =>
    split at leads
    · simp only [Option.some.injEq, operand.injEq] at leads
      exact ⟨isPrefix, leads.symm⟩
    · contradiction
  next =>
    split at leads
    · simp at leads
    · contradiction

/-- Only an operator in front of an operand makes one more of them. -/
theorem next?_operand_succ {stage : Stage} {kind : Kind} {count : Nat}
    (leads : stage.next? kind = some (.operand (count + 1))) :
    kind.isPrefix ∧ (stage = .operand count ∨ stage = .statement ∧ count = 0) := by
  cases stage with
  | statement =>
    rw [next?] at leads
    split at leads
    · simp at leads
    · split at leads
      · simp at leads
      · obtain ⟨isPrefix, same⟩ := inOperand?_eq_operand leads
        exact ⟨isPrefix, .inr ⟨rfl, by omega⟩⟩
  | operand prefixes =>
    obtain ⟨isPrefix, same⟩ := inOperand?_eq_operand leads
    exact ⟨isPrefix, .inl (by rw [Nat.succ.inj same])⟩
  | operator =>
    rw [next?] at leads
    split at leads
    · simp at leads
    · split at leads <;> simp at leads
  | ended => contradiction

/-- Tokens that lead into an operand end in the operators in front of it. -/
theorem exists_run {tokens : List Token} {count : Nat}
    (stages : Stage.statement.after? tokens = some (.operand count)) :
    ∃ lead run begins, tokens = lead ++ run ∧ run.length = count ∧
      (∀ token ∈ run, token.kind.isPrefix) ∧ Stage.statement.after? lead = some begins ∧
      (begins = .statement ∨ begins = .operand 0) := by
  induction count generalizing tokens with
  | zero => exact ⟨tokens, [], _, by simp, rfl, by simp, stages, .inr rfl⟩
  | succ count ih =>
    obtain rfl | ⟨before, last, rfl⟩ := List.eq_nil_or_concat' tokens
    · simp [after?] at stages
    · rw [after?_append] at stages
      obtain ⟨middle, first, leads⟩ := Option.bind_eq_some_iff.mp stages
      have leads : middle.next? last.kind = some (.operand (count + 1)) := by
        simpa [after?] using leads
      obtain ⟨isPrefix, rfl | ⟨rfl, rfl⟩⟩ := next?_operand_succ leads
      · obtain ⟨lead, run, begins, rfl, length, all, onward, awaits⟩ := ih first
        refine ⟨lead, run ++ [last], begins, by simp, by simp [length], ?_, onward, awaits⟩
        intro token among
        rcases List.mem_append.mp among with earlier | same
        · exact all token earlier
        · exact List.mem_singleton.mp same ▸ isPrefix
      · exact ⟨before, [last], .statement, rfl, rfl, by simpa using isPrefix, first, .inl rfl⟩

theorem mark_of_isPrefix {kind : Kind} (isPrefix : kind.isPrefix) :
    kind = .mark .exclamation ∨ kind = .mark .minus := by
  obtain ⟨_, _ | _⟩ := isPrefix_iff.mp isPrefix
  · exact .inl rfl
  · exact .inr rfl

/-- Whether the tokens end in one operator too many in front of an operand, and are viable without
it. -/
def NestsTooDeeply (tokens : List Token) : Prop :=
  ∃ lead run, tokens = lead ++ run ∧ run.length = 201 ∧
    (∀ token ∈ run, token.kind = .mark .exclamation ∨ token.kind = .mark .minus) ∧
    OperandPosition lead ∧ Viable (lead ++ run.dropLast)

theorem nestsTooDeeply_of_stages {before : List Token} {operator : Token}
    (stages : Stage.statement.after? before = some (.operand maxPrefixes))
    (isPrefix : operator.kind.isPrefix) (inner : ∀ token ∈ before, token.Inner) :
    NestsTooDeeply (before ++ [operator]) := by
  have viable := viable_of_stages stages inner
  obtain ⟨lead, run, begins, rfl, length, all, reached, awaits⟩ := exists_run stages
  refine ⟨lead, run ++ [operator], by simp, by simp [length, maxPrefixes], ?_, ?_, by simpa⟩
  · intro token among
    rcases List.mem_append.mp among with earlier | same
    · exact mark_of_isPrefix (all token earlier)
    · exact mark_of_isPrefix (List.mem_singleton.mp same ▸ isPrefix)
  · exact operandPosition_of_stages reached awaits fun token among =>
      inner token (List.mem_append_left _ among)

/-- What a fault says of the tokens before the one that is blamed. -/
theorem Fault.leftmost {tokens : List Token} {diagnostic : Diagnostic} {token : Token}
    (stream : Stream tokens) (fault : Fault .statement tokens diagnostic token) :
    ∃ before after, tokens = before ++ token :: after ∧
      (diagnostic ≠ .nestsTooDeeply → Viable before ∧ ¬ Viable (before ++ [token])) ∧
      (diagnostic = .nestsTooDeeply → NestsTooDeeply before) := by
  cases fault with
  | @here before after _ reached _ split stages stuck other =>
    have inner := Stream.inner (split ▸ stream) (by simp)
    have nowhere : Stage.statement.after? (before ++ [token]) = none := by
      rw [after?_append_of_eq stages, after?, stuck]
      rfl
    refine ⟨before, after, split, fun _ => ⟨viable_of_stages stages inner, ?_⟩, ?_⟩
    · intro viable
      have somewhere := viable.stages
      simp [nowhere] at somewhere
    · exact fun same => absurd same other
  | @deep before after operator _ split stages isPrefix =>
    have inner := Stream.inner (split ▸ stream) (by simp)
    refine ⟨before ++ [operator], after, by simp [split], by simp, fun _ => ?_⟩
    exact nestsTooDeeply_of_stages stages isPrefix inner

end Grammar

open Grammar

/-- A source without error tokens that does not parse: its first issue blames the first token with
which no source goes on. Only where operators nest too deeply it blames the token after the operator
that is one too many. -/
theorem firstIssue_leftmost {source : String} {failure : ParseFailure}
    (clean : ∀ token ∈ tokenize source, ¬ token.isError)
    (rejected : (parseSource source).1 = .error failure) :
    ∃ issue, (parseSource source).2.issues[0]? = some issue ∧ issue.token ∈ tokenize source ∧
      ∀ index, (tokenize source)[index]? = some issue.token →
        (issue.code ≠ 1105 →
          Viable ((tokenize source).take index) ∧ ¬ Viable ((tokenize source).take (index + 1))) ∧
        (issue.code = 1105 → NestsTooDeeply ((tokenize source).take index)) := by
  rcases outcome_source clean with isSource | ⟨diagnostic, token, later, fault, reported⟩
  · exact absurd (isSource.parse clean).2 (parseSource_eq_error rejected)
  · have code : (Issue.mk .error diagnostic.message token).code = 1105 ↔
        diagnostic = .nestsTooDeeply := by
      rw [Issue.code, Diagnostic.codeOf_message, Diagnostic.code_eq_nestsTooDeeply]
    obtain ⟨before, after, whole, atToken, tooDeep⟩ := fault.leftmost (stream_tokenize source)
    refine ⟨⟨.error, diagnostic.message, token⟩, ?_, by simp [whole], ?_⟩
    · rw [← Array.getElem?_toList, parseSource_issues, reported]
      rfl
    · intro index here
      -- A token stands in one place only, so this is the place of the fault.
      have there : (tokenize source)[before.length]? = some token := by simp [whole]
      have inside : index < (tokenize source).length := (List.getElem?_eq_some_iff.mp here).1
      obtain rfl :=
        (List.getElem?_inj inside (nodup_tokenize source)).mp (here.trans there.symm)
      have first : (tokenize source).take before.length = before := by simp [whole]
      have second : (tokenize source).take (before.length + 1) = before ++ [token] := by
        have regrouped : tokenize source = (before ++ [token]) ++ after := by simp [whole]
        rw [regrouped]
        exact List.take_left' (by simp)
      rw [first, second]
      exact ⟨fun other => atToken (mt code.mpr other), fun deep => tooDeep (code.mp deep)⟩

theorem firstIssue_leftmost_missing_operand :
    (∀ token ∈ tokenize "1 + ;", ¬ token.isError) ∧
      (parseSource "1 + ;").1 = .error ⟨1, (parse "1 + ;").program⟩ ∧
      ∃ issue, (parseSource "1 + ;").2.issues[0]? = some issue ∧
        issue.token ∈ tokenize "1 + ;" ∧
        ∀ index, (tokenize "1 + ;")[index]? = some issue.token →
          (issue.code ≠ 1105 →
            Viable ((tokenize "1 + ;").take index) ∧
              ¬ Viable ((tokenize "1 + ;").take (index + 1))) ∧
          (issue.code = 1105 → NestsTooDeeply ((tokenize "1 + ;").take index)) := by
  have clean : ∀ token ∈ tokenize "1 + ;", ¬ token.isError := by decide +kernel
  have rejected : (parseSource "1 + ;").1 = .error ⟨1, (parse "1 + ;").program⟩ := by
    decide +kernel
  exact ⟨clean, rejected, firstIssue_leftmost clean rejected⟩

end ScriptFront
