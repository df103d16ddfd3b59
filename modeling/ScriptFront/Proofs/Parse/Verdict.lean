import ScriptFront.Proofs.Parse.Report

/-!
# Verdicts

A fresh collection ends up with the issues of the parse that it is told about, in their order. Since
a parse reports errors only, it succeeds if and only if it has no issue.
-/
namespace ScriptFront

namespace Reporter

/-- Whoever is told, the program is that of the parse. -/
theorem parse_program {σ : Type} [Reporter σ] (reporter : σ) (source : String) :
    (parse reporter source).1.program = (ScriptFront.parse source).program := by
  unfold parse verdict
  dsimp only
  split <;> rfl

theorem verdict_eq_error_iff {σ : Type} [Reporter σ] {reporter : σ} {program : Program}
    {failure : ParseFailure} :
    verdict reporter program = .error failure ↔
      hadError reporter ∧ failure = ⟨errorCount reporter, program⟩ := by
  unfold verdict
  split
  next known => simp [known, eq_comm]
  next unknown => simp [unknown]

end Reporter

theorem Collection.hadError_iff (collection : Collection) :
    Reporter.hadError collection ↔ ∃ issue ∈ collection.issues.toList, issue.isError := by
  have count : Reporter.errorCount collection = collection.issues.toList.countP Issue.isError := rfl
  simp [Reporter.hadError, count]

theorem Collection.recordAll_issues (collection : Collection) (issues : List Issue) :
    (Reporter.recordAll collection issues).issues.toList = collection.issues.toList ++ issues := by
  induction issues generalizing collection with
  | nil => simp [Reporter.recordAll]
  | cons issue issues ih =>
    have next := ih (Reporter.record collection issue)
    rw [Reporter.recordAll, List.foldl_cons, ← Reporter.recordAll, next]
    simp [Reporter.record]

theorem parseSource_issues (source : String) :
    (parseSource source).2.issues.toList = (parse source).issues :=
  Collection.recordAll_issues Collection.empty (parse source).issues

theorem parseSource_program (source : String) :
    (parseSource source).1.program = (parse source).program :=
  Reporter.parse_program _ source

theorem parseSource_statements (source : String) :
    (parseSource source).1.program.statements = (ParseState.ofSource source).trees := by
  rw [parseSource_program, parse_statements]

/-- A collection knows of an error if and only if the parse reported anything. -/
theorem parseSource_hadError (source : String) :
    Reporter.hadError (parseSource source).2 ↔ (parse source).issues ≠ [] := by
  have issues := parseSource_issues source
  have errors := parse_errors source
  have count : Reporter.errorCount (parseSource source).2 =
      (parse source).issues.countP Issue.isError := by rw [← issues]; rfl
  have all : (parse source).issues.countP Issue.isError = (parse source).issues.length :=
    List.countP_eq_length.mpr errors
  simp [Reporter.hadError, count, all, List.length_pos_iff]

theorem parseSource_eq (source : String) :
    (parseSource source).1 = Reporter.verdict (parseSource source).2 (parse source).program := rfl

theorem parseSource_eq_ok_iff {source : String} {program : Program} :
    (parseSource source).1 = .ok program ↔
      (parse source).issues = [] ∧ (parse source).program = program := by
  have known := parseSource_hadError source
  rw [parseSource_eq, Reporter.verdict]
  split
  next failed => simp [known.mp failed]
  next calm =>
    have nothing : (parse source).issues = [] := not_not.mp fun some => calm (known.mpr some)
    simp [nothing]

theorem parseSource_eq_error {source : String} {failure : ParseFailure}
    (failed : (parseSource source).1 = .error failure) : (parse source).issues ≠ [] := by
  intro nothing
  have succeeded := parseSource_eq_ok_iff.mpr ⟨nothing, rfl⟩
  rw [failed] at succeeded
  contradiction

end ScriptFront
