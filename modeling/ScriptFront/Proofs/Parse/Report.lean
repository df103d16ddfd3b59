import ScriptFront.Proofs.Parse.Run

/-!
# What a parse reports

Between two recoveries a parse reports at most one issue, and it does so when it raises the alarm:
`Reports` is what holds of any two states in which nothing lowered the alarm in between. `Passes`
says the same of the tokens that consuming passes over, an error among which raises the alarm.

No error token of a source goes unnoticed: if there is one, the parse has an issue
(`clean_of_no_issues`).
-/
namespace ScriptFront

/-- What is said about an error token among these. -/
def IsScanIssue (tokens : List Token) (issue : Issue) : Prop :=
  ∃ token ∈ tokens, token.isError ∧ issue = ⟨.error, token.lexeme, token⟩

/-- From one state to the other nothing was reported, or the alarm was raised with one issue: about
an error token that was passed over, or a complaint of the parse. -/
inductive Reports (Complaint : Issue → Prop) (before after : ParseState) : Prop where
  | silent (skipped : List Token) (unread : before.unread = skipped ++ after.unread)
      (alarmed : after.alarmed = before.alarmed) (issues : after.issues = before.issues)
  | raised (skipped : List Token) {issue : Issue} (unread : before.unread = skipped ++ after.unread)
      (blamed : IsScanIssue skipped issue ∨ Complaint issue) (calm : before.alarmed = false)
      (alarmed : after.alarmed = true) (issues : after.issues = issue :: before.issues)

/-- From one state to the other these tokens were passed over. -/
structure Passes (skipped : List Token) (before after : ParseState) : Prop where
  unread : before.unread = skipped ++ after.unread
  alarmed : after.alarmed = (before.alarmed || skipped.any Token.isError)

theorem IsScanIssue.isError {tokens : List Token} {issue : Issue}
    (isScanIssue : IsScanIssue tokens issue) : issue.isError := by
  obtain ⟨token, -, -, rfl⟩ := isScanIssue
  rfl

theorem IsScanIssue.mono {tokens more : List Token} {issue : Issue}
    (isScanIssue : IsScanIssue tokens issue) (subset : tokens ⊆ more) : IsScanIssue more issue := by
  obtain ⟨token, among, isError, same⟩ := isScanIssue
  exact ⟨token, subset among, isError, same⟩

namespace Reports

variable {Complaint Allowed : Issue → Prop} {first second third : ParseState}

theorem refl (state : ParseState) : Reports Complaint state state := .silent [] rfl rfl rfl

theorem mono (reports : Reports Complaint first second)
    (weaker : ∀ issue, Complaint issue → Allowed issue) : Reports Allowed first second := by
  cases reports with
  | silent skipped unread alarmed issues => exact .silent skipped unread alarmed issues
  | raised skipped unread blamed calm alarmed issues =>
    exact .raised skipped unread (blamed.imp_right (weaker _)) calm alarmed issues

theorem widen (reports : Reports (fun _ => False) first second) : Reports Complaint first second :=
  reports.mono fun _ => False.elim

theorem trans (left : Reports Complaint first second) (right : Reports Complaint second third) :
    Reports Complaint first third := by
  have joined {before after : List Token} (unread : first.unread = before ++ second.unread)
      (unread' : second.unread = after ++ third.unread) :
      first.unread = (before ++ after) ++ third.unread := by
    rw [unread, unread', List.append_assoc]
  cases left with
  | silent before unread alarmed issues =>
    cases right with
    | silent after unread' alarmed' issues' =>
      exact .silent _ (joined unread unread') (alarmed'.trans alarmed) (issues'.trans issues)
    | raised after unread' blamed calm alarmed' issues' =>
      have inside := List.subset_append_right before after
      exact .raised _ (joined unread unread') (blamed.imp_left (·.mono inside)) (alarmed ▸ calm)
        alarmed' (issues ▸ issues')
  | raised before unread blamed calm alarmed issues =>
    cases right with
    | silent after unread' alarmed' issues' =>
      have inside := List.subset_append_left before after
      exact .raised _ (joined unread unread') (blamed.imp_left (·.mono inside)) calm
        (alarmed'.trans alarmed) (issues'.trans issues)
    | raised _ _ _ calm' => simp [alarmed] at calm'

/-- Once the alarm is raised nothing is reported any more. -/
theorem of_alarmed (reports : Reports Complaint first second) (alarmed : first.alarmed = true) :
    second.alarmed = true ∧ second.issues = first.issues := by
  cases reports with
  | silent _ _ same issues => exact ⟨same.trans alarmed, issues⟩
  | raised _ _ _ calm => simp [alarmed] at calm

/-- Whatever complaints could have been made, once the alarm is raised none was. -/
theorem strengthen (reports : Reports Complaint first second) (alarmed : first.alarmed = true) :
    Reports Allowed first second := by
  cases reports with
  | silent skipped unread same issues => exact .silent skipped unread same issues
  | raised _ _ _ calm => simp [alarmed] at calm

/-- How many operators stand in front of an operand does not matter. -/
theorem unnest {outer inner : Nat} (reports : Reports Complaint (first.nest inner) second) :
    Reports Complaint first (second.nest outer) := by
  cases reports with
  | silent skipped unread alarmed issues => exact .silent skipped unread alarmed issues
  | raised skipped unread blamed calm alarmed issues =>
    exact .raised skipped unread blamed calm alarmed issues

theorem unread_suffix (reports : Reports Complaint first second) :
    second.unread <:+ first.unread := by
  cases reports with
  | silent skipped unread => exact ⟨skipped, unread.symm⟩
  | raised skipped unread => exact ⟨skipped, unread.symm⟩

theorem issues_suffix (reports : Reports Complaint first second) :
    first.issues <:+ second.issues := by
  cases reports with
  | silent _ _ _ issues => exact issues ▸ List.suffix_refl _
  | raised _ _ _ _ _ issues => exact issues ▸ List.suffix_cons ..

end Reports

namespace ParseState

theorem reports_report (state : ParseState) (message : String) (token : Token) :
    Reports (· = ⟨.error, message, token⟩) state (state.report message token) := by
  unfold report
  split
  · exact .refl state
  next calm => exact .raised [] rfl (.inr rfl) (Bool.not_eq_true _ ▸ calm) rfl rfl

theorem report_alarmed (state : ParseState) (message : String) (token : Token) :
    (state.report message token).alarmed = true := by
  unfold report
  split
  next alarmed => exact alarmed
  next => rfl

/-- An error token is passed over and reported. -/
theorem reports_scanned (state : ParseState) {token : Token} (isError : token.isError)
    (rest : List Token) :
    Reports (fun _ => False) { state with unread := token :: rest }
      { state.report token.lexeme token with unread := rest } := by
  unfold report
  split
  · exact .silent [token] rfl rfl rfl
  next calm =>
    have scanned : IsScanIssue [token] ⟨.error, token.lexeme, token⟩ :=
      ⟨token, List.mem_singleton_self token, isError, rfl⟩
    exact .raised [token] rfl (.inl scanned) (Bool.not_eq_true _ ▸ calm) rfl rfl

theorem reports_pull (state : ParseState) (tokens : List Token) :
    Reports (fun _ => False) { state with unread := tokens } (state.pull tokens) := by
  induction tokens generalizing state with
  | nil => exact .silent [] rfl rfl rfl
  | cons token rest ih =>
    unfold pull
    dsimp only
    split
    next isError =>
      let noted : ParseState := { state with steps := .pulled token :: state.steps }
      have pulled : Reports (fun _ => False) { state with unread := token :: rest }
          { noted with unread := token :: rest } := .silent [] rfl rfl rfl
      exact pulled.trans ((reports_scanned noted isError rest).trans (ih _))
    next =>
      by_cases isEnd : token.isEnd
      · exact .silent [] (by simp [isEnd]) rfl rfl
      · exact .silent [token] (by simp [isEnd]) rfl rfl

theorem reports_consume (state : ParseState) : Reports (fun _ => False) state state.consume :=
  reports_pull state state.unread

theorem invariant_reports (before : ParseState) : Invariant (Reports (·.isError) before) where
  consume reports := reports.trans (reports_consume _).widen
  complain reports _ _ := by
    refine reports.trans ((reports_report _ _ _).mono ?_)
    rintro _ rfl
    rfl
  nest reports _ := reports.trans (.silent [] rfl rfl rfl)

theorem reports_chainOnto (level : Level) (levels : List Level) (left : Expression)
    (state : ParseState) :
    Reports (·.isError) state (Rule.chainOnto level (Rule.ofLevels levels) left state).2 := by
  have simulation := (invariant_reports state).onExpression.simulation
  exact (simulation.chainOnto level (simulation.ofLevels levels) left ⟨rfl, .refl state⟩).2.2

theorem reports_expect (state : ParseState) (kind : Kind) (diagnostic : Diagnostic) :
    Reports (·.isError) state (state.expect kind diagnostic) :=
  (invariant_reports state).expect (.refl state) kind diagnostic

end ParseState

namespace Passes

theorem refl (state : ParseState) : Passes [] state state := ⟨rfl, by simp⟩

theorem trans {first second third : ParseState} {left right : List Token}
    (before : Passes left first second) (after : Passes right second third) :
    Passes (left ++ right) first third :=
  ⟨by rw [before.unread, after.unread, List.append_assoc],
    by rw [after.alarmed, before.alarmed, List.any_append, Bool.or_assoc]⟩

end Passes

namespace ParseState

theorem passes_pull (state : ParseState) (tokens : List Token) :
    ∃ skipped, tokens = skipped ++ (state.pull tokens).unread ∧
      (state.pull tokens).alarmed = (state.alarmed || skipped.any Token.isError) := by
  induction tokens generalizing state with
  | nil => exact ⟨[], rfl, by simp [pull]⟩
  | cons token rest ih =>
    unfold pull
    dsimp only
    split
    next isError =>
      obtain ⟨skipped, unread, alarmed⟩ :=
        ih ({ state with steps := .pulled token :: state.steps }.report token.lexeme token)
      rw [report_alarmed] at alarmed
      exact ⟨token :: skipped, congrArg (token :: ·) unread, by simp [alarmed, isError]⟩
    next notError =>
      by_cases isEnd : token.isEnd
      · exact ⟨[], by simp [isEnd], by simp⟩
      · exact ⟨[token], by simp [isEnd], by simp [notError]⟩

theorem passes_consume (state : ParseState) : ∃ skipped, Passes skipped state state.consume := by
  obtain ⟨skipped, unread, alarmed⟩ := passes_pull state state.unread
  exact ⟨skipped, unread, alarmed⟩

theorem passes_skipToBoundary (state : ParseState) :
    ∃ skipped, Passes skipped state state.skipToBoundary := by
  fun_induction skipToBoundary state with
  | case1 state => exact ⟨[], .refl state⟩
  | case2 state => exact ⟨[], .refl state⟩
  | case3 state => exact ⟨[], .refl state⟩
  | case4 state _ _ _ ih =>
    obtain ⟨consumed, first⟩ := passes_consume state
    obtain ⟨skipped, onward⟩ := ih
    exact ⟨consumed ++ skipped, first.trans onward⟩

theorem Clean.of_passes {before after : ParseState} {skipped : List Token} (clean : before.Clean)
    (passes : Passes skipped before after) : after.Clean ∧ after.alarmed = before.alarmed := by
  have sound : skipped.any Token.isError = false := by
    rw [List.any_eq_false]
    intro token among
    exact clean token (passes.unread ▸ List.mem_append_left _ among)
  refine ⟨fun token among => clean token ?_, by rw [passes.alarmed, sound, Bool.or_false]⟩
  rw [passes.unread]
  exact List.mem_append_right _ among

/-- Where no error token is left, consuming reports nothing. -/
theorem Clean.consume {state : ParseState} (clean : state.Clean) :
    state.consume.Clean ∧ state.consume.alarmed = state.alarmed ∧
      state.consume.issues = state.issues := by
  obtain ⟨skipped, passes⟩ := passes_consume state
  obtain ⟨cleanAfter, alarmed⟩ := clean.of_passes passes
  refine ⟨cleanAfter, alarmed, ?_⟩
  cases reports_consume state with
  | silent _ _ _ issues => exact issues
  | raised _ _ _ calm raised => simp [alarmed, calm] at raised

end ParseState

open ParseState

theorem invariant_issues_suffix (earlier : List Issue) :
    Invariant fun state => earlier <:+ state.issues where
  consume suffix := suffix.trans (reports_consume _).issues_suffix
  complain suffix _ _ := suffix.trans (reports_report _ _ _).issues_suffix
  nest suffix _ := suffix

/-- What is true of the issues before and of every one that can be reported stays true of all. -/
theorem Reports.forall_issues {Complaint Holds : Issue → Prop} {before after : ParseState}
    (reports : Reports Complaint before after)
    (possible : ∀ issue, IsScanIssue before.unread issue ∨ Complaint issue → Holds issue)
    (holds : ∀ issue ∈ before.issues, Holds issue) : ∀ issue ∈ after.issues, Holds issue := by
  cases reports with
  | silent _ _ _ issues => exact issues ▸ holds
  | @raised skipped latest unread blamed _ _ issues =>
    have inside : skipped ⊆ before.unread := unread ▸ List.subset_append_left ..
    rw [issues]
    intro issue among
    rcases List.mem_cons.mp among with rfl | earlier
    · exact possible _ (blamed.imp_left (·.mono inside))
    · exact holds issue earlier

theorem invariant_errors : Invariant fun state => ∀ issue ∈ state.issues, issue.isError where
  consume errors := by
    refine (reports_consume _).forall_issues (fun issue blamed => ?_) errors
    exact blamed.elim IsScanIssue.isError False.elim
  complain errors diagnostic token := by
    refine (reports_report _ diagnostic.message token).forall_issues ?_ errors
    rintro issue (scanned | rfl)
    · exact scanned.isError
    · rfl
  nest errors _ := errors

/-- A parse reports errors only. -/
theorem parse_errors (source : String) : ∀ issue ∈ (parse source).issues, issue.isError := by
  have start : ∀ issue ∈ (ofSource source).issues, issue.isError :=
    invariant_errors.consume (by simp [initial])
  intro issue among
  rw [parse_issues, List.mem_reverse] at among
  exact invariant_errors.finish id start issue among

/-- The tokens that were met so far, with an issue if there was an error token among them. -/
structure Accounted (tokens : List Token) (state : ParseState) : Prop where
  met : ∃ met, tokens = met ++ state.unread ∧ (met.any Token.isError → state.issues ≠ [])
  alarm : state.alarmed = true → state.issues ≠ []

theorem Reports.nonempty {Complaint : Issue → Prop} {before after : ParseState}
    (reports : Reports Complaint before after)
    (some : before.issues ≠ []) : after.issues ≠ [] := by
  obtain ⟨more, issues⟩ := reports.issues_suffix
  intro none
  rw [none] at issues
  exact some (List.append_eq_nil_iff.mp issues).2

theorem Reports.nonempty_of_alarm {Complaint : Issue → Prop} {before after : ParseState}
    (reports : Reports Complaint before after)
    (alarm : before.alarmed = true → before.issues ≠ []) (alarmed : after.alarmed = true) :
    after.issues ≠ [] := by
  cases reports with
  | silent _ _ same issues => exact issues ▸ alarm (same ▸ alarmed)
  | raised _ _ _ _ _ issues => simp [issues]

theorem invariant_accounted (tokens : List Token) : Invariant (Accounted tokens) where
  consume {state} accounted := by
    obtain ⟨met, split, issued⟩ := accounted.met
    obtain ⟨skipped, passes⟩ := passes_consume state
    have alarm := (reports_consume state).nonempty_of_alarm accounted.alarm
    refine ⟨⟨met ++ skipped, by rw [split, passes.unread, List.append_assoc], ?_⟩, alarm⟩
    intro error
    rw [List.any_append, Bool.or_eq_true] at error
    rcases error with earlier | now
    · exact (reports_consume state).nonempty (issued earlier)
    · exact alarm (by rw [passes.alarmed, now, Bool.or_true])
  complain {state} accounted diagnostic token := by
    obtain ⟨met, split, issued⟩ := accounted.met
    have reports := reports_report state diagnostic.message token
    exact ⟨⟨met, by rw [complain_unread, split], fun error => reports.nonempty (issued error)⟩,
      reports.nonempty_of_alarm accounted.alarm⟩
  nest accounted _ := ⟨accounted.met, accounted.alarm⟩

theorem Accounted.lowered {tokens : List Token} {state : ParseState}
    (accounted : Accounted tokens state) : Accounted tokens state.lowered :=
  ⟨accounted.met, by simp [ParseState.lowered]⟩

/-- A parse without issues has met no error token. -/
theorem clean_of_no_issues {source : String} (none : (parse source).issues = []) :
    ∀ token ∈ tokenize source, ¬ token.isError := by
  rw [parse_issues, List.reverse_eq_nil_iff] at none
  have start : Accounted (tokenize source) (ofSource source) :=
    (invariant_accounted _).consume ⟨⟨[], rfl, by simp⟩, by simp [initial]⟩
  obtain ⟨met, split, issued⟩ := ((invariant_accounted _).finish Accounted.lowered start).met
  have isEnd := finish_isEnd (ofSource source)
  have last := (invariant_proper.finish Proper.lowered (proper_ofSource source)).atEnd isEnd
  intro token among isError
  rw [split, last, List.mem_append, List.mem_singleton] at among
  rcases among with earlier | rfl
  · exact issued (List.any_eq_true.mpr ⟨token, earlier, isError⟩) none
  · exact Token.not_isError_of_isEnd isEnd isError

end ScriptFront
