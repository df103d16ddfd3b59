import ScriptFront.Proofs.Parse.Complaint
import ScriptFront.Proofs.Parse.Verdict

/-!
# The order of issues

The tokens that issues blame are tokens of the source, in their order and each at most once
(`blamed_sublist`). An issue can blame the token ahead, which stays ahead, but a second one cannot:
the alarm is raised then, and no statement ends before the token is consumed. So between statements
the token ahead stands behind all that were blamed (`Settled`), and inside of a statement it does
as long as there is no alarm (`Underway`). The lists of tokens that were blamed and of those to come
are followed as one sublist of the tokens of the source.
-/
namespace ScriptFront

namespace ParseState

/-- The tokens behind the one ahead. Behind the end of input there are none. -/
def beyond (state : ParseState) : List Token := if state.current.isEnd then [] else state.unread

/-- The tokens that issues were reported about, the earliest first. -/
def blamed (state : ParseState) : List Token := (state.issues.map Issue.token).reverse

/-- The token ahead and those behind it stand after the tokens that were blamed. -/
def Unblamed (tokens : List Token) (state : ParseState) : Prop :=
  (state.blamed ++ state.current :: state.beyond).Sublist tokens

/-- Inside of a statement. -/
structure Underway (tokens : List Token) (state : ParseState) : Prop where
  proper : state.Proper
  passed : (state.blamed ++ state.beyond).Sublist tokens
  calm : state.alarmed = false → state.Unblamed tokens

/-- Between statements. -/
structure Settled (tokens : List Token) (state : ParseState) : Prop where
  proper : state.Proper
  passed : (state.blamed ++ state.beyond).Sublist tokens
  notEnd : ¬ state.current.isEnd → state.Unblamed tokens

variable {tokens : List Token} {state : ParseState}

theorem Unblamed.passed (unblamed : state.Unblamed tokens) :
    (state.blamed ++ state.beyond).Sublist tokens :=
  ((List.sublist_cons_self _ _).append_left _).trans unblamed

theorem Unblamed.underway (unblamed : state.Unblamed tokens) (proper : state.Proper) :
    Underway tokens state :=
  ⟨proper, unblamed.passed, fun _ => unblamed⟩

theorem Unblamed.settled (unblamed : state.Unblamed tokens) (proper : state.Proper) :
    Settled tokens state :=
  ⟨proper, unblamed.passed, fun _ => unblamed⟩

theorem Settled.underway (settled : Settled tokens state) (notEnd : ¬ state.current.isEnd) :
    Underway tokens state :=
  (settled.notEnd notEnd).underway settled.proper

theorem report_of_alarmed (alarmed : state.alarmed = true) (message : String) (token : Token) :
    state.report message token = state := by
  rw [report, if_pos alarmed]

theorem blamed_report (calm : state.alarmed = false) (message : String) (token : Token) :
    (state.report message token).blamed = state.blamed ++ [token] := by
  simp [report, calm, blamed]

theorem beyond_report (state : ParseState) (message : String) (token : Token) :
    (state.report message token).beyond = state.beyond := by
  rw [beyond, beyond, report_current, report_unread]

theorem blamed_report_sublist (state : ParseState) (message : String) (token : Token) :
    ∃ reported, (state.report message token).blamed = state.blamed ++ reported ∧
      reported.Sublist [token] := by
  cases alarm : state.alarmed with
  | true =>
    rw [report_of_alarmed alarm]
    exact ⟨[], by simp, by simp⟩
  | false => exact ⟨[token], blamed_report alarm .., List.Sublist.refl _⟩

/-- What a pull reports about stands before the token that it moves to, in the order of the
tokens. -/
theorem pull_split (state : ParseState) {rest : List Token} (stream : Stream rest) :
    ∃ met, (state.pull rest).blamed = state.blamed ++ met ∧
      (met ++ (state.pull rest).current :: (state.pull rest).beyond).Sublist rest := by
  induction stream generalizing state with
  | @ends token isEnd =>
    have notError := Token.not_isError_of_isEnd isEnd
    exact ⟨[], by simp [pull, notError, blamed], by simp [pull, notError, isEnd, beyond]⟩
  | @goesOn token rest notEnd _ _ ih =>
    unfold pull
    dsimp only
    split
    next isError =>
      let noted : ParseState := { state with steps := .pulled token :: state.steps }
      obtain ⟨reported, first, few⟩ := blamed_report_sublist noted token.lexeme token
      obtain ⟨met, blamed, inside⟩ := ih (noted.report token.lexeme token)
      refine ⟨reported ++ met, ?_, ?_⟩
      · rw [blamed, first, List.append_assoc]
        rfl
      · rw [List.append_assoc]
        exact few.append inside
    next => exact ⟨[], by simp [blamed], by simp [notEnd, beyond]⟩

/-- Before the end of input, consuming moves to a token behind all that were blamed. -/
theorem unblamed_consume (proper : state.Proper)
    (passed : (state.blamed ++ state.beyond).Sublist tokens) (notEnd : ¬ state.current.isEnd) :
    state.consume.Unblamed tokens := by
  obtain ⟨met, blamed, inside⟩ := pull_split state proper.stream
  rw [beyond, if_neg notEnd] at passed
  unfold Unblamed ParseState.consume
  rw [blamed, List.append_assoc]
  exact (inside.append_left _).trans passed

/-- At the end of input, consuming changes nothing but the token consumed last. -/
theorem Proper.consume_of_isEnd (proper : state.Proper) (isEnd : state.current.isEnd) :
    state.consume =
      { state with previous := state.current, steps := .pulled state.current :: state.steps } := by
  have notError := Token.not_isError_of_isEnd isEnd
  simp [ParseState.consume, pull, proper.atEnd isEnd, notError, isEnd]

namespace Underway

theorem consume (underway : Underway tokens state) : Underway tokens state.consume := by
  by_cases isEnd : state.current.isEnd
  · have proper := underway.proper.consume
    rw [underway.proper.consume_of_isEnd isEnd] at proper ⊢
    exact ⟨proper, underway.passed, underway.calm⟩
  · exact (unblamed_consume underway.proper underway.passed isEnd).underway underway.proper.consume

/-- A complaint about the token ahead raises the alarm. -/
theorem complain (underway : Underway tokens state) (diagnostic : Diagnostic) :
    Underway tokens (state.complain diagnostic state.current) := by
  have proper := underway.proper.complain diagnostic state.current
  cases alarm : state.alarmed with
  | true =>
    rw [ParseState.complain, report_of_alarmed alarm]
    exact underway
  | false =>
    refine ⟨proper, ?_, ?_⟩
    · rw [ParseState.complain, blamed_report alarm, beyond_report, List.append_assoc]
      exact underway.calm alarm
    · simp [ParseState.complain, report_alarmed]

theorem onExpression (tokens : List Token) : ExpressionInvariant (Underway tokens) where
  consume := consume
  complain underway diagnostic _ := underway.complain diagnostic
  complainConsumed underway isNumber unread :=
    absurd unread (underway.proper.readable isNumber)
  nest underway nesting := ⟨underway.proper.nest nesting, underway.passed, underway.calm⟩

/-- A complaint about the token just consumed does not concern the one ahead. -/
theorem complain_consumed (underway : Underway tokens state) (diagnostic : Diagnostic) :
    Settled tokens (state.consume.complain diagnostic state.current) := by
  have properNext := underway.proper.consume
  have proper := properNext.complain diagnostic state.current
  by_cases isEnd : state.current.isEnd
  · have next := underway.proper.consume_of_isEnd isEnd
    have same : state.consume.current = state.current := by rw [next]
    have complained := underway.consume.complain diagnostic
    rw [same] at complained
    refine ⟨proper, complained.passed, fun notEnd => absurd ?_ notEnd⟩
    rwa [complain_current, same]
  · have unblamed := unblamed_consume underway.proper underway.passed isEnd
    cases alarm : state.consume.alarmed with
    | true =>
      rw [ParseState.complain, report_of_alarmed alarm]
      exact unblamed.settled properNext
    | false =>
      refine Unblamed.settled ?_ proper
      have silent : state.alarmed = false ∧ state.consume.issues = state.issues := by
        cases reports_consume state with
        | silent _ _ alarmed issues => exact ⟨alarmed ▸ alarm, issues⟩
        | raised _ _ _ _ alarmed => simp [alarm] at alarmed
      obtain ⟨met, -, inside⟩ := pull_split state underway.proper.stream
      have onward : (state.consume.current :: state.consume.beyond).Sublist state.beyond := by
        have same : state.beyond = state.unread := if_neg isEnd
        rw [same]
        exact (List.sublist_append_right met _).trans inside
      have sameBlamed : state.consume.blamed = state.blamed := by rw [blamed, blamed, silent.2]
      unfold Unblamed ParseState.complain
      rw [blamed_report alarm, beyond_report, report_current, sameBlamed, List.append_assoc]
      exact ((onward.cons_cons _).append_left _).trans (underway.calm silent.1)

theorem expect (underway : Underway tokens state) (kind : Kind) (diagnostic : Diagnostic) :
    Settled tokens (state.expect kind diagnostic) := by
  unfold ParseState.expect
  dsimp only
  split
  · by_cases isEnd : state.current.isEnd
    · have consumed := underway.consume
      refine ⟨consumed.proper, consumed.passed, fun notEnd => absurd ?_ notEnd⟩
      rwa [underway.proper.consume_of_isEnd isEnd]
    · exact (unblamed_consume underway.proper underway.passed isEnd).settled
        underway.proper.consume
  · rw [consume_previous]
    exact underway.complain_consumed diagnostic

theorem terminated (underway : Underway tokens state) (diagnostic : Diagnostic) :
    Settled tokens (state.terminated diagnostic).2 :=
  ((onExpression tokens).expression underway).expect _ _

/-- No statement ends before the token with which it went wrong is consumed. -/
theorem statement (underway : Underway tokens state) : Settled tokens state.statement.2 := by
  rw [statement_eq]
  split
  · exact underway.consume.terminated _
  · exact underway.terminated _

end Underway

namespace Settled

theorem skipToBoundary (settled : Settled tokens state) : Settled tokens state.skipToBoundary := by
  fun_induction ParseState.skipToBoundary state with
  | case1 => exact settled
  | case2 => exact settled
  | case3 => exact settled
  | case4 state notEnd _ _ ih =>
    have unblamed := unblamed_consume settled.proper settled.passed notEnd
    exact ih (unblamed.settled settled.proper.consume)

theorem settle (settled : Settled tokens state) : Settled tokens state.settle := by
  unfold ParseState.settle
  split
  · have lowered : Settled tokens state.lowered :=
      ⟨settled.proper.lowered, settled.passed, settled.notEnd⟩
    exact lowered.skipToBoundary
  · exact settled

theorem finish (settled : Settled tokens state) : Settled tokens state.finish :=
  finish_of_statement (fun notEnd settled => (settled.underway notEnd).statement.settle) settled

end Settled

theorem settled_ofSource (source : String) : Settled (tokenize source) (ofSource source) := by
  obtain ⟨met, blamed, inside⟩ :=
    pull_split (initial (tokenize source)) (stream_tokenize source)
  have unblamed : (ofSource source).Unblamed (tokenize source) := by
    change (((initial (tokenize source)).pull (tokenize source)).blamed ++ _).Sublist _
    rw [blamed]
    exact inside
  exact unblamed.settled (proper_ofSource source)

end ParseState

open ParseState

/-- The tokens that issues blame are tokens of the source, in the same order. -/
theorem blamed_sublist (source : String) :
    ((parse source).issues.map Issue.token).Sublist (tokenize source) := by
  have passed := (settled_ofSource source).finish.passed
  rw [parse_issues, List.map_reverse]
  exact (List.sublist_append_left _ _).trans passed

/-- Where there is nothing but the end of input, there is nothing to report. -/
theorem issues_of_nothing {source : String} {token : Token} (nothing : tokenize source = [token]) :
    (parse source).issues = [] := by
  have isEnd : token.isEnd := by
    have stream := stream_tokenize source
    rw [nothing] at stream
    cases stream with
    | ends isEnd => exact isEnd
    | goesOn _ _ more => exact absurd rfl more.ne_nil
  have notError := Token.not_isError_of_isEnd isEnd
  have atEnd : (ofSource source).current.isEnd := by
    simp [ofSource, initial, nothing, ParseState.consume, pull, notError, isEnd]
  rw [parse_issues, finish_of_isEnd atEnd]
  simp [ofSource, initial, nothing, ParseState.consume, pull, notError]

/-- Only a source without text has a token that looks like the one that stands for none. -/
theorem eq_placeholder {source : String} (among : placeholder ∈ tokenize source) :
    tokenize source = [placeholder] := by
  have stream := stream_tokenize source
  have ordered := (Cursor.tokens_starts (Cursor.start source)).1
  change (tokenize source).Pairwise _ at ordered
  cases whole : tokenize source with
  | nil => exact absurd whole stream.ne_nil
  | cons first rest =>
    rw [whole] at among stream ordered
    rcases List.mem_cons.mp among with rfl | behind
    · cases stream with
      | ends => rfl
      | goesOn notEnd => exact absurd rfl notEnd
    · exact absurd ((List.pairwise_cons.mp ordered).1 _ behind) (Nat.not_lt_zero _)

/-- Issues are reported in the order of the source. Each blames a token of the source, and no two
blame the same one, for each blames a token that starts behind the one before. The issues of the
scan are those about error tokens. -/
theorem issues_in_source_order (source : String) :
    let issues := (parseSource source).2.issues.toList
    (∀ issue ∈ issues, issue.token ∈ tokenize source ∧ issue.token ≠ placeholder) ∧
      issues.Pairwise (fun before after =>
        before.token.start < after.token.start ∧ before.token.line ≤ after.token.line) ∧
      ∀ issue ∈ issues, (issue.code = 1001 ∨ issue.code = 1002) ↔ issue.token.isError := by
  have inside := blamed_sublist source
  have starts := (Cursor.tokens_starts (Cursor.start source)).1
  have lines := (Cursor.tokens_lines (Cursor.start source)).1
  intro issues
  have same : issues = (parse source).issues := parseSource_issues source
  rw [same]
  refine ⟨fun issue among => ?_, ?_, fun issue among => code_iff_isError among⟩
  · have member := inside.subset (List.mem_map_of_mem among)
    refine ⟨member, fun isPlaceholder => ?_⟩
    have nothing := issues_of_nothing (eq_placeholder (isPlaceholder ▸ member))
    simp [nothing] at among
  · rw [← List.pairwise_map (f := Issue.token) (R := fun before after =>
      before.start < after.start ∧ before.line ≤ after.line)]
    exact (starts.and lines).sublist inside

end ScriptFront
