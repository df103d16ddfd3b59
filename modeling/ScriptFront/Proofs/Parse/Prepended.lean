import ScriptFront.Proofs.Grammar.Recognition
import ScriptFront.Proofs.Parse.Alarm
import ScriptFront.Proofs.Parse.Shifted

/-!
# Programs in front of a source

A parse that has read a program in front of a source is where a parse of the source begins: nothing
was reported, no alarm is raised and no operator waits for its operand. So the source is parsed as
it would be alone, only further on (`parseSource_after_program`).
-/
namespace ScriptFront

open ParseState Grammar

namespace ParseState

theorem advance_consume (count : Nat) (state : ParseState) :
    state.consume.advance count = (state.advance count).consume :=
  advance_add count 1 state

/-- Consuming tokens with no error among them only gets past them. -/
theorem advance_past {state : ParseState} {before after : List Token}
    (unread : state.unread = before ++ after) (inner : ∀ token ∈ before, token.Inner)
    (clean : ∀ token ∈ before, ¬ token.isError) :
    (state.advance before.length).unread = after ∧
      (state.advance before.length).alarmed = state.alarmed ∧
      (state.advance before.length).issues = state.issues := by
  induction before generalizing state with
  | nil => exact ⟨unread, rfl, rfl⟩
  | cons token before ih =>
    have notEnd := (inner token List.mem_cons_self).1
    have notError := clean token List.mem_cons_self
    have pulled : state.consume =
        { state with
          steps := .pulled token :: state.steps
          previous := state.current
          current := token
          unread := before ++ after } := by
      simp [ParseState.consume, unread, pull, notEnd, notError]
    have unreadNext : state.consume.unread = before ++ after := by rw [pulled]
    have onward := ih unreadNext (fun other among => inner other (List.mem_cons_of_mem _ among))
      fun other among => clean other (List.mem_cons_of_mem _ among)
    rw [List.length_cons, advance]
    exact ⟨onward.1, onward.2.1.trans (by rw [pulled]), onward.2.2.trans (by rw [pulled])⟩

end ParseState

/-- Behind tokens without an error, a source is met as it would be alone. -/
theorem took_onward {source after : String} {body : List Token} {characters lines : Nat}
    (tokens : tokenize source = body ++ (tokenize after).map (Token.shift characters lines))
    (clean : ∀ token ∈ body, ¬ token.isError) :
    ∃ next, Took body (ofSource source) next ∧
      Shifted characters lines [] (ofSource after) next := by
  have someLeft : (tokenize after).map (Token.shift characters lines) ≠ [] := by
    simpa using (stream_tokenize after).ne_nil
  have inner := Stream.inner (tokens ▸ stream_tokenize source) someLeft
  let past := (initial (tokenize source)).advance body.length
  have unreadStart : (initial (tokenize source)).unread = _ := tokens
  obtain ⟨unread, alarmed, issues⟩ := advance_past unreadStart inner clean
  have shifted : Shifted characters lines [] (ofSource after) past.consume := by
    have echoes : Echoes characters lines [] (initial (tokenize after)) past :=
      ⟨alarmed, advance_nesting .., issues⟩
    have pulled := echoes.pull (stream_tokenize after)
    rwa [← unread] at pulled
  refine ⟨past.consume, ⟨?_, (advance_consume _ _).symm⟩, shifted⟩
  calc (ofSource source).ahead
      = body ++ withoutErrors ((tokenize after).map (Token.shift characters lines)) := by
        rw [ahead_ofSource, tokens, withoutErrors, List.filter_append, ← withoutErrors,
          ← withoutErrors, withoutErrors_eq_self clean]
    _ = body ++ past.consume.ahead := by rw [withoutErrors_shift, shifted.ahead, ahead_ofSource]

/-- Behind a line feed after a program, a source that does not begin with an error token has the
issues that it has alone, about tokens that stand further on, and its statements follow those of the
program. -/
theorem parseSource_after_program (before after : String) (program : Program)
    (accepted : (parseSource before).1 = .ok program)
    (noError : ∀ token, (tokenize after).head? = some token → ¬ token.isError) :
    (parseSource (before ++ "\n" ++ after)).2.issues.toList =
        (parseSource after).2.issues.toList.map
          (Issue.shift (before.toList.length + 1) (before.toList.count '\n' + 1)) ∧
      (parseSource (before ++ "\n" ++ after)).1.program.statements =
        program.statements ++ (parseSource after).1.program.statements := by
  obtain ⟨none, rfl⟩ := parseSource_eq_ok_iff.mp accepted
  obtain ⟨clean, body, last, whole, -, isProgram⟩ := isSource_of_no_issues none
  have closed : ∀ token ∈ tokenize before, ¬ token.isOpenString := by
    intro token among isOpen
    simp [Token.isOpenString, clean token among] at isOpen
  have tokens := tokenize_joined before after closed
  rw [whole, List.dropLast_concat] at tokens
  obtain ⟨next, took, shifted⟩ := took_onward tokens fun token among =>
    clean token (whole ▸ List.mem_append_left _ among)
  have calm : next.alarmed = false := by
    have calmAlone : ¬ (ofSource after).alarmed = true := by
      rw [ofSource, ParseState.consume, pull_alarmed_iff rfl]
      rintro ⟨token, first, isError⟩
      exact noError token first isError
    rw [shifted.alarmed]
    simpa using calmAlone
  obtain ⟨trees, finish⟩ :=
    isProgram.run_onward (proper_ofSource _) (nesting_ofSource _) took calm
  obtain ⟨sameTrees, shiftedFinish⟩ := shifted.run
  constructor
  · rw [parseSource_issues, parseSource_issues, parse_issues, parse_issues, finish,
      shiftedFinish.issues, List.append_nil, List.map_reverse]
  · rw [parseSource_program, parseSource_program, parse_statements (before ++ "\n" ++ after),
      trees, ← sameTrees, parse_statements after]

theorem parseSource_after_program_missing_semicolon :
    (parseSource "print null;").1 = .ok ⟨[.print .null]⟩ ∧
      (∀ token, (tokenize "1 2;\nprint;").head? = some token → ¬ token.isError) ∧
      (parseSource ("print null;" ++ "\n" ++ "1 2;\nprint;")).2.issues.toList =
        (parseSource "1 2;\nprint;").2.issues.toList.map (Issue.shift 12 1) ∧
      (parseSource ("print null;" ++ "\n" ++ "1 2;\nprint;")).1.program.statements =
        [.print .null] ++ (parseSource "1 2;\nprint;").1.program.statements := by
  have accepted : (parseSource "print null;").1 = .ok ⟨[.print .null]⟩ := by decide +kernel
  have noError : ∀ token, (tokenize "1 2;\nprint;").head? = some token → ¬ token.isError := by
    decide +kernel
  exact ⟨accepted, noError, parseSource_after_program _ _ _ accepted noError⟩

end ScriptFront
