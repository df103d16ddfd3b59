import ScriptFront.Parse.Session
import ScriptFront.Proofs.Parse.Shifted
import ScriptFront.Proofs.Parse.Verdict

/-!
# Parses with a history

A reporter that is told about a source may know of issues from before. They have no part in the
parse: with a log of issues to begin with, it does what it does without one, and adds to the log
what it would report alone (`ParseState.run_onto`). So it makes no difference whether a reporter is
told on the spot or afterwards (`Collection.parse_onto`). Only the verdict is about all issues,
those from before and those of the source (`parse_after_session`).
-/
namespace ScriptFront

@[simp] theorem Token.shift_zero : Token.shift 0 0 = id := rfl

@[simp] theorem Issue.shift_zero : Issue.shift 0 0 = id := rfl

namespace ParseState

/-- The state in which the first token is ahead, with a log of issues to begin with. -/
def ofSourceOnto (log : List Issue) (source : String) : ParseState :=
  { initial (tokenize source) with issues := log }.consume

/-- The log is never looked at. -/
theorem run_onto (log : List Issue) (source : String) :
    (ofSourceOnto log source).trees = (ofSource source).trees ∧
      (ofSourceOnto log source).finish.issues = (ofSource source).finish.issues ++ log := by
  have echoes : Echoes 0 0 log (initial (tokenize source))
      { initial (tokenize source) with issues := log } := ⟨rfl, rfl, rfl⟩
  have shifted : Shifted 0 0 log (ofSource source) (ofSourceOnto log source) := by
    have pulled := echoes.pull (stream_tokenize source)
    have unmoved : (tokenize source).map (Token.shift 0 0) = tokenize source := by simp
    rwa [unmoved] at pulled
  obtain ⟨trees, finish⟩ := shifted.run
  exact ⟨trees.symm, by simpa using finish.issues⟩

end ParseState

open ParseState

namespace Collection

variable (collection : Collection) (source : String)

theorem parse_issues : (Reporter.parse collection source).2.issues.toList =
    collection.issues.toList ++ (parseSource source).2.issues.toList := by
  rw [parseSource_issues]
  exact recordAll_issues collection (ScriptFront.parse source).issues

/-- A collection that is told afterwards ends up as the log of a parse that tells it on the spot. -/
theorem parse_onto :
    let start := ofSourceOnto collection.issues.toList.reverse source
    (Reporter.parse collection source).1.program.statements = start.trees ∧
      (Reporter.parse collection source).2.issues.toList = start.finish.issues.reverse := by
  obtain ⟨trees, issues⟩ := run_onto collection.issues.toList.reverse source
  constructor
  · rw [trees, ← parse_statements, Reporter.parse_program]
  · rw [issues, parse_issues, parseSource_issues, ScriptFront.parse_issues, List.reverse_append,
      List.reverse_reverse]

theorem errorCount_parse : Reporter.errorCount (Reporter.parse collection source).2 =
    Reporter.errorCount collection + Reporter.errorCount (parseSource source).2 := by
  have issues := congrArg (List.countP Issue.isError) (parse_issues collection source)
  rwa [List.countP_append] at issues

end Collection

namespace Reporter

variable {σ : Type} [Reporter σ]

/-- What a reporter knows after the last step of a session. -/
def after (reporter : σ) (steps : List SessionStep) : σ :=
  ((session reporter steps).getLast?.map Prod.snd).getD reporter

end Reporter

/-- Whatever a collection was told before, a parse adds the issues that it has alone, all of them
errors, and makes of the source what it makes of it alone. It fails if and only if the collection
then knows of an error, from whenever that is, and the failure counts all errors. If only warnings
were told before, the verdict is the one that the source has alone. A parse whose log begins with
what is known, and that adds to it on the spot, reads the same program and ends with the same
log. -/
theorem parse_after_session (steps : List SessionStep) (source : String) :
    let before := Reporter.after Collection.empty steps
    let result := Reporter.parse before source
    let onTheSpot := ofSourceOnto before.issues.toList.reverse source
    result.2.issues.toList = before.issues.toList ++ (parseSource source).2.issues.toList ∧
      (∀ issue ∈ (parseSource source).2.issues.toList, issue.isError) ∧
      result.1.program = (parseSource source).1.program ∧
      ((∃ failure, result.1 = .error failure) ↔
        ∃ issue ∈ result.2.issues.toList, issue.isError) ∧
      (∀ failure, result.1 = .error failure →
        failure.errorCount = result.2.issues.toList.countP Issue.isError) ∧
      ((∀ issue ∈ before.issues.toList, ¬ issue.isError) →
        result.1 = (parseSource source).1) ∧
      result.1.program.statements = onTheSpot.trees ∧
      result.2.issues.toList = onTheSpot.finish.issues.reverse := by
  intro before result onTheSpot
  have verdict : result.1 = Reporter.verdict result.2 (parse source).program := rfl
  refine ⟨Collection.parse_issues before source, ?_, ?_, ?_, ?_, ?_,
    Collection.parse_onto before source⟩
  · rw [parseSource_issues]
    exact parse_errors source
  · rw [parseSource_program]
    exact Reporter.parse_program before source
  · rw [← Collection.hadError_iff, verdict]
    simp [Reporter.verdict_eq_error_iff]
  · intro failure failed
    rw [verdict, Reporter.verdict_eq_error_iff] at failed
    rw [failed.2]
    rfl
  · intro warnings
    have none : Reporter.errorCount before = 0 :=
      List.countP_eq_zero.mpr fun issue among => warnings issue among
    have count := Collection.errorCount_parse before source
    rw [none, Nat.zero_add] at count
    have alone := parseSource_eq source
    rw [verdict, alone, Reporter.verdict, Reporter.verdict, Reporter.hadError, Reporter.hadError,
      count]

end ScriptFront
