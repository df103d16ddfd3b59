import ScriptFront.Proofs.Parse.Report
import ScriptFront.Proofs.Token.Munch

/-!
# Scan errors and complaints

Every issue of a source is about an error token that the scan has met, or it is a complaint of the
parse, one of four and about a token that is no error (`issue_origin`). The code of an issue tells
the two apart (`code_iff_isError`).
-/
namespace ScriptFront

/-- What there is to say about tokens that the grammar does not derive. -/
def Diagnostic.complaints : List Diagnostic :=
  [expectedExpression, expectedSemicolonAfterValue, expectedSemicolonAfterExpression,
    nestsTooDeeply]

inductive IsComplaint : Issue → Prop where
  | about {diagnostic : Diagnostic} {token : Token} (known : diagnostic ∈ Diagnostic.complaints)
      (notError : ¬ token.isError) : IsComplaint ⟨.error, diagnostic.message, token⟩

namespace ParseState

variable {state : ParseState}

theorem reports_complain (state : ParseState) {diagnostic : Diagnostic} {token : Token}
    (known : diagnostic ∈ Diagnostic.complaints) (notError : ¬ token.isError) :
    Reports IsComplaint state (state.complain diagnostic token) := by
  refine (reports_report _ _ _).mono ?_
  rintro _ rfl
  exact .about known notError

/-- No number of a scan is unreadable. -/
theorem Proper.readable (proper : state.Proper) (isNumber : state.current.kind = .numericLiteral) :
    literalValue? state.current.lexeme.toList ≠ none := by
  obtain ⟨value, read⟩ := proper.spelled.number isNumber
  simp [read]

theorem complains_onExpression (before : ParseState) :
    ExpressionInvariant fun state => state.Proper ∧ Reports IsComplaint before state where
  consume holds := ⟨holds.1.consume, holds.2.trans (reports_consume _).widen⟩
  complain holds diagnostic known := by
    have known : diagnostic ∈ Diagnostic.complaints := by
      revert known
      cases diagnostic <;> decide
    exact ⟨holds.1.complain _ _, holds.2.trans (reports_complain _ known holds.1.notError)⟩
  complainConsumed holds isNumber unread := absurd unread (holds.1.readable isNumber)
  nest holds _ := ⟨holds.1.nest _, holds.2.trans (.silent [] rfl rfl rfl)⟩

theorem complains_expect (proper : state.Proper) (kind : Kind) {diagnostic : Diagnostic}
    (known : diagnostic ∈ Diagnostic.complaints) :
    Reports IsComplaint state (state.expect kind diagnostic) := by
  have consumed : Reports IsComplaint state state.consume := (reports_consume state).widen
  unfold expect
  dsimp only
  split
  · exact consumed
  · refine consumed.trans (reports_complain _ known ?_)
    rw [consume_previous]
    exact proper.notError

theorem complains_terminated (proper : state.Proper) {diagnostic : Diagnostic}
    (known : diagnostic ∈ Diagnostic.complaints) :
    Reports IsComplaint state (state.terminated diagnostic).2 := by
  obtain ⟨properNext, read⟩ :=
    (complains_onExpression state).expression ⟨proper, .refl state⟩
  exact read.trans (complains_expect properNext _ known)

/-- While a statement is read, at most one issue is reported, and no other than these. -/
theorem complains_statement (proper : state.Proper) :
    Reports IsComplaint state state.statement.2 := by
  rw [statement_eq]
  split
  · exact (reports_consume _).widen.trans (complains_terminated proper.consume (by decide))
  · exact complains_terminated proper (by decide)

theorem reports_skipToBoundary (state : ParseState) :
    Reports (fun _ => False) state state.skipToBoundary := by
  fun_induction skipToBoundary state with
  | case1 state => exact .refl state
  | case2 state => exact .refl state
  | case3 state => exact .refl state
  | case4 state _ _ _ ih => exact (reports_consume state).trans ih

end ParseState

open ParseState

/-- Where the issues so far come from. -/
structure Explained (tokens : List Token) (state : ParseState) : Prop where
  proper : state.Proper
  inside : state.unread ⊆ tokens
  issues : ∀ issue ∈ state.issues, IsScanIssue tokens issue ∨ IsComplaint issue

namespace Explained

variable {tokens : List Token} {state after : ParseState}

theorem reports (explained : Explained tokens state) (reports : Reports IsComplaint state after)
    (proper : after.Proper) : Explained tokens after := by
  obtain ⟨skipped, unread⟩ := reports.unread_suffix
  refine ⟨proper, fun token among => explained.inside ?_, ?_⟩
  · rw [← unread]
    exact List.mem_append_right skipped among
  · exact reports.forall_issues
      (fun issue blamed => blamed.imp_left (·.mono explained.inside)) explained.issues

theorem settle (explained : Explained tokens state) : Explained tokens state.settle := by
  have proper := invariant_proper.settle Proper.lowered explained.proper
  unfold ParseState.settle at proper ⊢
  split
  next alarmed =>
    rw [if_pos alarmed] at proper
    have lowered : Explained tokens state.lowered :=
      ⟨explained.proper.lowered, explained.inside, explained.issues⟩
    exact lowered.reports (reports_skipToBoundary _).widen proper
  next => exact explained

end Explained

/-- An issue is about an error token of the source, or it is a complaint. -/
theorem issue_origin (source : String) : ∀ issue ∈ (parse source).issues,
    IsScanIssue (tokenize source) issue ∨ IsComplaint issue := by
  have untouched : ∀ issue ∈ (initial (tokenize source)).issues,
      IsScanIssue (tokenize source) issue ∨ IsComplaint issue := by simp [initial]
  have start : Explained (tokenize source) (ofSource source) := by
    obtain ⟨skipped, unread⟩ := (reports_consume (initial (tokenize source))).unread_suffix
    refine ⟨proper_ofSource source, fun token among => ?_, ?_⟩
    · have inside : token ∈ (initial (tokenize source)).unread :=
        unread ▸ List.mem_append_right skipped among
      exact inside
    · exact (reports_consume _).widen.forall_issues (fun _ blamed => blamed) untouched
  have last : Explained (tokenize source) (ofSource source).finish := by
    refine finish_of_statement (fun _ explained => ?_) start
    have proper := invariant_proper.statement explained.proper
    exact (explained.reports (complains_statement explained.proper) proper).settle
  intro issue among
  rw [parse_issues, List.mem_reverse] at among
  exact last.issues issue among

theorem ScanFault.code (fault : ScanFault) :
    Diagnostic.codeOf fault.message = 1001 ∨ Diagnostic.codeOf fault.message = 1002 := by
  cases fault with
  | unexpectedCharacter => exact .inl (Diagnostic.codeOf_message .unexpectedCharacter)
  | unterminatedString => exact .inr (Diagnostic.codeOf_message .unterminatedString)

theorem IsComplaint.code {issue : Issue} (isComplaint : IsComplaint issue) :
    issue.code ∈ [1100, 1101, 1102, 1105] := by
  obtain @⟨diagnostic, token, known, -⟩ := isComplaint
  rw [Issue.code, Diagnostic.codeOf_message]
  revert known
  cases diagnostic <;> decide

/-- The codes of the scan are those of issues about error tokens. -/
theorem code_iff_isError {source : String} {issue : Issue} (among : issue ∈ (parse source).issues) :
    issue.code = 1001 ∨ issue.code = 1002 ↔ issue.token.isError := by
  rcases issue_origin source issue among with ⟨token, met, isError, rfl⟩ | isComplaint
  · obtain ⟨fault, lexeme⟩ := lexeme_of_isError met isError
    rw [Issue.code, lexeme]
    exact iff_of_true fault.code isError
  · have code := isComplaint.code
    obtain ⟨-, notError⟩ := isComplaint
    refine iff_of_false ?_ notError
    rintro (same | same) <;> simp [same] at code

end ScriptFront
