import ScriptFront.Proofs.Parse.Verdict

/-!
# Counting issues

Errors do not cascade. Raising the alarm costs an issue and every issue raises the alarm, so that
between two recoveries the alarm accounts for all that is reported (`Reports.tally`). A recovery
writes the alarm off against the statement before it. What is left at the end is an issue for every
statement that raised the alarm or began with it raised, and at most one more (`issues_tally`).
-/
namespace ScriptFront

namespace ParseState

/-- The issue for which the alarm is still raised. -/
def pending (state : ParseState) : Nat := if state.alarmed then 1 else 0

theorem pending_le (state : ParseState) : state.pending ≤ 1 := by
  unfold pending
  split <;> decide

end ParseState

open ParseState

/-- Without a recovery in between, there are as many new issues as new alarms. -/
theorem Reports.tally {Complaint : Issue → Prop} {before after : ParseState}
    (reports : Reports Complaint before after) :
    after.issues.length + before.pending = before.issues.length + after.pending := by
  cases reports with
  | silent _ _ alarmed issues => rw [issues, pending, pending, alarmed]
  | raised _ _ _ calm alarmed issues => simp [pending, calm, alarmed, issues]

namespace ParseState

/-- Recovery gives up the alarm that it finds, and reports what the alarm stands for that it
leaves. -/
theorem settle_tally (state : ParseState) :
    state.settle.issues.length = state.issues.length + state.settle.pending := by
  unfold settle
  split
  · have reports := (invariant_reports state.lowered).skipToBoundary (.refl _)
    exact reports.tally
  next calm => simp [pending, calm]

/-- From one statement to the next there is a new issue for the alarm that the statement leaves and
one for the alarm that recovery leaves, less the one that was there before. -/
theorem settled_tally (state : ParseState) :
    state.statement.2.settle.issues.length + state.pending =
      state.issues.length + state.statement.2.pending + state.statement.2.settle.pending := by
  have reports := (invariant_reports state).statement (.refl state)
  have read := reports.tally
  have settled := settle_tally state.statement.2
  omega

theorem finish_tally (state : ParseState) :
    state.finish.issues.length + state.pending =
      state.issues.length + state.heads.countP (·.statement.2.alarmed) + state.finish.pending := by
  fun_induction finish state with
  | case1 state isEnd => simp [heads_of_isEnd isEnd]
  | case2 state notEnd ih =>
    have settled := settled_tally state
    have alarmed : (if state.statement.2.alarmed then 1 else 0) = state.statement.2.pending := rfl
    rw [heads_of_notEnd notEnd, List.countP_cons, alarmed]
    omega

end ParseState

theorem ofSource_tally (source : String) :
    (ofSource source).issues.length = (ofSource source).pending := by
  have first := (reports_consume (initial (tokenize source))).tally
  have issues : (initial (tokenize source)).issues.length = 0 := rfl
  have pending : (initial (tokenize source)).pending = 0 := rfl
  rwa [issues, pending, Nat.add_zero, Nat.zero_add] at first

/-- There are as many issues as statements at whose end the alarm is raised, and one more if it is
raised at the end of the source. So there is not more than one for each statement and one besides,
whatever is wrong with the source. -/
theorem issues_tally (source : String) :
    let issues := (parseSource source).2.issues
    issues.size = (ofSource source).heads.countP (·.statement.2.alarmed) +
        (ofSource source).finish.pending ∧
      issues.size ≤ (parseSource source).1.program.statements.length + 1 := by
  intro issues
  have size : issues.size = (ofSource source).finish.issues.length := by
    rw [← Array.length_toList, parseSource_issues, parse_issues, List.length_reverse]
  have statements : (parseSource source).1.program.statements.length =
      (ofSource source).heads.length := by
    rw [parseSource_statements, trees, List.length_map]
  have start := ofSource_tally source
  have whole := finish_tally (ofSource source)
  have few : (ofSource source).heads.countP (·.statement.2.alarmed) ≤
      (ofSource source).heads.length := List.countP_le_length
  have last := pending_le (ofSource source).finish
  omega

/-- The one besides is for an error token that no statement comes after. -/
example : (parseSource "@").2.issues.size = 1 ∧
    (parseSource "@").1.program.statements.length = 0 := by
  decide +kernel

end ScriptFront
