import ScriptFront.Proofs.Grammar.Reading
import ScriptFront.Proofs.Parse.Nesting
import ScriptFront.Proofs.Parse.Verdict

/-!
# The alarm between statements

Recovery lowers the alarm before it passes tokens over, and an error token among them raises it
again; so does one that stands before everything else. In these cases, and in no other, a statement
begins with the alarm raised, and what is wrong with it goes unreported. A statement that begins
without an alarm is told about in full (`alarm_between_statements`).
-/
namespace ScriptFront

open ParseState Grammar

/-- What is told about a statement that begins here: nothing, if its tokens are a statement, and
otherwise one issue, about the first token with which they are none or about an error token that was
met before that. -/
inductive Told (state : ParseState) : Prop where
  | nothing (tokens : List Token) (isStatement : IsStatement tokens state.statement.1)
      (took : Took tokens state state.statement.2) (calm : state.statement.2.alarmed = false)
      (issues : state.statement.2.issues = state.issues)
  | issue (skipped : List Token) (issue : Issue)
      (unread : state.unread = skipped ++ state.statement.2.unread)
      (blamed : IsScanIssue skipped issue ∨
        ∃ diagnostic token, Fault .statement state.ahead diagnostic token ∧
          issue = ⟨.error, diagnostic.message, token⟩)
      (alarmed : state.statement.2.alarmed = true)
      (issues : state.statement.2.issues = issue :: state.issues)

namespace ParseState

/-- A pull raises the alarm if and only if it meets an error token first. -/
theorem pull_alarmed_iff {state : ParseState} (calm : state.alarmed = false)
    (tokens : List Token) :
    (state.pull tokens).alarmed = true ↔
      ∃ token, tokens.head? = some token ∧ token.isError := by
  cases tokens with
  | nil => simp [pull, calm]
  | cons token rest =>
    unfold pull
    dsimp only
    split
    next isError =>
      have raised := report_alarmed { state with steps := .pulled token :: state.steps }
        token.lexeme token
      have kept := ((reports_pull _ rest).of_alarmed raised).1
      simpa [isError] using kept
    next notError => simp [notError, calm]

/-- Recovery leaves the alarm raised if and only if it passes an error token over. -/
theorem settle_alarmed_iff (state : ParseState) :
    ∃ skipped, state.unread = skipped ++ state.settle.unread ∧
      (state.settle.alarmed = true ↔
        state.alarmed = true ∧ ∃ token ∈ skipped, token.isError) := by
  unfold settle
  split
  next alarmed =>
    obtain ⟨skipped, passes⟩ := passes_skipToBoundary state.lowered
    refine ⟨skipped, passes.unread, ?_⟩
    have lowered : state.lowered.alarmed = false := rfl
    rw [recover_eq, passes.alarmed, lowered, Bool.false_or, List.any_eq_true]
    simp [alarmed]
  next calm => exact ⟨[], rfl, by simp [calm]⟩

end ParseState

theorem told_of_calm {state : ParseState} (proper : state.Proper) (flat : state.nesting = 0)
    (notEnd : ¬ state.current.isEnd) (calm : state.alarmed = false) : Told state := by
  cases outcome_statement proper flat notEnd with
  | read tokens isStatement took =>
    cases took.reports with
    | silent _ _ alarmed issues =>
      exact .nothing tokens isStatement took (alarmed.trans calm) issues
    | raised skipped unread blamed _ alarmed issues =>
      have scanned := blamed.resolve_right False.elim
      exact .issue skipped _ unread (.inl scanned) alarmed issues
  | @faulted diagnostic token faulted =>
    cases faulted.reports with
    | silent _ _ same => simp [faulted.alarmed, calm] at same
    | raised skipped unread blamed _ alarmed issues =>
      refine .issue skipped _ unread (blamed.imp_right fun same => ?_) alarmed issues
      exact ⟨diagnostic, token, faulted.fault, same⟩

/-- The heads of a source are the states in which the loop over statements reads them, one for each
statement of the program. The alarm is raised in front of the first statement if and only if the
source begins with an error token, and in front of a later one if and only if the recovery before it
passed an error token over. Without an alarm, the first thing that is wrong with a statement is
reported. -/
theorem alarm_between_statements (source : String) :
    (parseSource source).1.program.statements =
      (ofSource source).heads.map (·.statement.1) ∧
    ((ofSource source).alarmed = true ↔
      ∃ token, (tokenize source).head? = some token ∧ token.isError) ∧
    ∀ head ∈ (ofSource source).heads,
      (∃ skipped, head.statement.2.unread = skipped ++ head.statement.2.settle.unread ∧
        (head.statement.2.settle.alarmed = true ↔
          head.statement.2.alarmed = true ∧ ∃ token ∈ skipped, token.isError)) ∧
      (head.alarmed = false → Told head) := by
  refine ⟨parseSource_statements source, pull_alarmed_iff rfl _, fun head among =>
    ⟨settle_alarmed_iff _, fun calm => ?_⟩⟩
  have proper := invariant_proper.heads Proper.lowered (proper_ofSource source) head among
  have flat := heads_nesting (nesting_ofSource source) head among
  exact told_of_calm proper flat (heads_notEnd _ head among) calm

/-- An error token before the first statement hides what is wrong with the statement. -/
theorem alarm_hides_missing_semicolon :
    (¬ ∀ head ∈ (ofSource "@ 1 2;").heads, head.alarmed = false) ∧
      (parse "@ 1 2;").issues.map Issue.code = [1001] ∧
      (parse "1 2;").issues.map Issue.code = [1102] := by
  decide +kernel

end ScriptFront
