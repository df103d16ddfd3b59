import ScriptFront.Proofs.Parse.Complaint
import ScriptFront.Proofs.Parse.Verdict

/-!
# What is reported

Of the catalogue, six diagnostics can be met. No message outside of it is ever reported, the end of
input is always found where it is looked for, because the loop over statements stops nowhere else,
and every number that a scan finds can be read (`reported_diagnostics`).
-/
namespace ScriptFront

/-- The diagnostic about text that is no token. -/
def ScanFault.diagnostic : ScanFault → Diagnostic
  | unexpectedCharacter => .unexpectedCharacter
  | unterminatedString => .unterminatedString

theorem ScanFault.diagnostic_message (fault : ScanFault) :
    fault.diagnostic.message = fault.message := by
  cases fault <;> rfl

/-- The diagnostics that can be met. -/
def Diagnostic.reported : List Diagnostic :=
  [unexpectedCharacter, unterminatedString] ++ complaints

theorem ScanFault.diagnostic_reported (fault : ScanFault) :
    fault.diagnostic ∈ Diagnostic.reported := by
  cases fault <;> decide

/-- An issue is an error with the message of one of these diagnostics. -/
theorem issue_reported {source : String} {issue : Issue} (among : issue ∈ (parse source).issues) :
    ∃ diagnostic ∈ Diagnostic.reported,
      issue = ⟨.error, diagnostic.message, issue.token⟩ := by
  rcases issue_origin source issue among with ⟨token, met, isError, rfl⟩ | isComplaint
  · obtain ⟨fault, lexeme⟩ := lexeme_of_isError met isError
    exact ⟨fault.diagnostic, fault.diagnostic_reported, by rw [fault.diagnostic_message, lexeme]⟩
  · obtain @⟨diagnostic, token, known, -⟩ := isComplaint
    exact ⟨diagnostic, List.mem_append_right _ known, rfl⟩

/-- Digits, with a point and digits behind them or not, can be read. -/
theorem literalValue?_of_isNumber {text : List Char} (isNumber : IsNumber text) :
    ∃ value, literalValue? text = some value := by
  rcases isNumber with ⟨some, digits⟩ | ⟨whole, places, rfl, ⟨some, digits⟩, someAfter, after⟩
  · exact ⟨_, literalValue?_whole digits some⟩
  · exact ⟨_, literalValue?_pointed digits some after someAfter⟩

/-- The lexemes of numbers are digits, with a point and digits behind them or not. -/
theorem isNumber_lexeme {source : String} {token : Token} (among : token ∈ tokenize source)
    (isNumber : token.kind = .numericLiteral) : IsNumber token.lexeme.toList := by
  have notEnd : ¬ token.isEnd := by simp [Token.isEnd, isNumber]
  have notError : ¬ token.isError := by simp [Token.isError, isNumber]
  have form := form_lexeme among notEnd notError
  rw [isNumber] at form
  exact form.isNumber

/-- Every issue is an error and one of six: its code is that of a diagnostic of the catalogue and
its message the one that stands there. The other two are never met, since statements are read as
long as the end of input is not ahead and since the lexeme of every number can be read. -/
theorem reported_diagnostics (source : String) :
    (∀ issue ∈ (parseSource source).2.issues.toList,
      issue.severity = .error ∧ issue.code ∈ [1001, 1002, 1100, 1101, 1102, 1105] ∧
        ∃ diagnostic : Diagnostic,
          diagnostic.code = issue.code ∧ diagnostic.message = issue.message) ∧
      (ParseState.statementsOnto [] (ParseState.ofSource source)).2.current.isEnd ∧
      ∀ token ∈ tokenize source, token.kind = .numericLiteral →
        IsNumber token.lexeme.toList ∧ ∃ value, literalValue? token.lexeme.toList = some value := by
  refine ⟨fun issue among => ?_, ?_, fun token among isNumber => ?_⟩
  · rw [parseSource_issues] at among
    obtain ⟨diagnostic, reported, same⟩ := issue_reported among
    have code : issue.code = diagnostic.code := by
      rw [same, Issue.code, Diagnostic.codeOf_message]
    refine ⟨by rw [same], ?_, diagnostic, code.symm, by rw [same]⟩
    rw [code]
    revert reported
    cases diagnostic <;> decide
  · rw [ParseState.statementsOnto_eq]
    exact ParseState.finish_isEnd _
  · have isNumber := isNumber_lexeme among isNumber
    exact ⟨isNumber, literalValue?_of_isNumber isNumber⟩

end ScriptFront
