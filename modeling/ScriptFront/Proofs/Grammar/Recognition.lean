import ScriptFront.Proofs.Grammar.Running
import ScriptFront.Proofs.Parse.Verdict

/-!
# Recognizing the grammar

A source parses without an issue if and only if the scan has no error in it and the grammar derives
its tokens, and then to the program that the tokens stand for (`parseSource_recognizes`).
-/
namespace ScriptFront

namespace Grammar

open ParseState

/-- What comes of tokens without errors: either the grammar derives them, or the first issue is
where the stages of the grammar end. -/
theorem outcome_tokens {tokens : List Token} (stream : Stream tokens)
    (clean : ∀ token ∈ tokens, ¬ token.isError) :
    IsSource tokens ⟨(initial tokens).consume.trees⟩ ∨
      ∃ diagnostic token later, Fault .statement tokens diagnostic token ∧
        (initial tokens).consume.finish.issues =
          later ++ [⟨.error, diagnostic.message, token⟩] := by
  have untouched : (initial tokens).Clean := clean
  obtain ⟨cleanStart, calm, none⟩ := untouched.consume
  have proper : (initial tokens).consume.Proper := proper_pull _ stream
  have whole : (initial tokens).consume.ahead = tokens :=
    (ahead_pull _ stream).trans (withoutErrors_eq_self clean)
  rcases outcome_program proper (consume_nesting _) cleanStart calm with
    ⟨body, isProgram, took⟩ | ⟨diagnostic, token, later, fault, reported⟩
  · have isEnd := finish_isEnd (initial tokens).consume
    refine .inl ⟨body, _, ?_, isEnd, isProgram⟩
    calc tokens = body ++ (initial tokens).consume.finish.ahead := whole.symm.trans took.ahead
      _ = body ++ [(initial tokens).consume.finish.current] := by rw [ahead, if_pos isEnd]
  · refine .inr ⟨diagnostic, token, later, whole ▸ fault, ?_⟩
    rw [reported, none]
    rfl

theorem outcome_source {source : String} (clean : ∀ token ∈ tokenize source, ¬ token.isError) :
    IsSource (tokenize source) (parse source).program ∨
      ∃ diagnostic token later, Fault .statement (tokenize source) diagnostic token ∧
        (parse source).issues = ⟨.error, diagnostic.message, token⟩ :: later := by
  rcases outcome_tokens (stream_tokenize source) clean with
    ⟨body, last, whole, isEnd, isProgram⟩ | ⟨diagnostic, token, later, fault, reported⟩
  · exact .inl ⟨body, last, whole, isEnd, parse_statements source ▸ isProgram⟩
  · have reported : (ofSource source).finish.issues = _ := reported
    refine .inr ⟨diagnostic, token, later.reverse, fault, ?_⟩
    simp [parse_issues, reported]

/-- A source that the grammar derives is read as the grammar says, without an issue. -/
theorem IsSource.parse {source : String} {program : Program}
    (clean : ∀ token ∈ tokenize source, ¬ token.isError)
    (isSource : IsSource (tokenize source) program) :
    (parse source).program = program ∧ (parse source).issues = [] := by
  have untouched : (initial (tokenize source)).Clean := clean
  obtain ⟨cleanStart, calm, none⟩ := untouched.consume
  have proper := proper_ofSource source
  obtain ⟨body, last, whole, isEnd, isProgram⟩ := isSource
  have ahead := (ahead_ofSource source).trans ((withoutErrors_eq_self clean).trans whole)
  have took := Took.of_ahead proper (by simp) ahead
  have current := current_of_ahead (List.append_cancel_left (took.ahead.symm.trans ahead))
  obtain ⟨trees, finish⟩ := isProgram.run proper (nesting_ofSource source) cleanStart calm took
    (current ▸ isEnd)
  obtain ⟨-, -, issues⟩ := took.clean cleanStart
  constructor
  · exact congrArg Program.mk ((parse_statements source).trans trees)
  · rw [parse_issues, finish]
    exact congrArg List.reverse (issues.trans none)

/-- A source without an issue has no error token, and the grammar derives it. -/
theorem isSource_of_no_issues {source : String} (none : (parse source).issues = []) :
    (∀ token ∈ tokenize source, ¬ token.isError) ∧
      IsSource (tokenize source) (parse source).program := by
  have clean := clean_of_no_issues none
  rcases outcome_source clean with isSource | ⟨diagnostic, token, later, -, reported⟩
  · exact ⟨clean, isSource⟩
  · simp [none] at reported

end Grammar

open Grammar

/-- A source parses if and only if the scan has no error in it and the grammar derives its tokens,
and then to the program that they stand for. A `null` in the program stands for a `null` in the
source, never for something that could not be read. -/
theorem parseSource_recognizes (source : String) (program : Program) :
    ((parseSource source).1 = .ok program ↔
      (∀ token ∈ tokenize source, ¬ token.isError) ∧ IsSource (tokenize source) program) ∧
    ((parseSource source).1 = .ok program →
      List.Forall₂ (fun token literal => literal = .null ↔ token.kind = .keyword .nullWord)
        ((tokenize source).filter (·.kind.isLiteral))
        (program.statements.flatMap (·.expression.literals))) := by
  have derived (accepted : (parseSource source).1 = .ok program) :
      (∀ token ∈ tokenize source, ¬ token.isError) ∧ IsSource (tokenize source) program := by
    obtain ⟨none, same⟩ := parseSource_eq_ok_iff.mp accepted
    exact same ▸ isSource_of_no_issues none
  refine ⟨⟨derived, ?_⟩, ?_⟩
  · rintro ⟨clean, isSource⟩
    obtain ⟨same, none⟩ := isSource.parse clean
    exact parseSource_eq_ok_iff.mpr ⟨none, same⟩
  · intro accepted
    obtain ⟨-, body, last, whole, isEnd, isProgram⟩ := derived accepted
    have noLiteral : last.kind.isLiteral = false := by
      have kind : last.kind = .endOfInput := by simpa [Token.isEnd] using isEnd
      simp [kind, Kind.isLiteral]
    have literals := isProgram.literals
    rw [whole, List.filter_append, List.filter_cons_of_neg (by simp [noLiteral]), List.filter_nil,
      List.append_nil]
    exact literals.imp fun token literal isLiteral => isLiteral.eq_null_iff

end ScriptFront
