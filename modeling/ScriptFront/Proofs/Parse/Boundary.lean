import ScriptFront.Proofs.Parse.Alike
import ScriptFront.Proofs.Parse.Verdict
import ScriptFront.Proofs.Token.Joined

/-!
# Semicolons as boundaries

A semicolon on a line of its own parts a source for good: whatever is wrong before it, the
statements after it are read as if nothing stood before them (`semicolon_parts`).
-/
namespace ScriptFront

@[simp] theorem wordsOf_append (before after : List Token) :
    wordsOf (before ++ after) = wordsOf before ++ wordsOf after := by
  simp [wordsOf, withoutErrors]

/-- A word is the same wherever it stands. -/
@[simp] theorem wordsOf_shift (characters lines : Nat) (tokens : List Token) :
    wordsOf (tokens.map (Token.shift characters lines)) = wordsOf tokens := by
  induction tokens with
  | nil => rfl
  | cons token tokens ih =>
    have sameError := Token.shift_isError characters lines token
    by_cases isError : token.isError
    · rw [wordsOf, wordsOf, List.map_cons, withoutErrors_cons_of_isError (sameError ▸ isError),
        withoutErrors_cons_of_isError isError]
      exact ih
    · rw [wordsOf, wordsOf, List.map_cons, withoutErrors_cons (sameError ▸ isError),
        withoutErrors_cons isError]
      exact congrArg (token.word :: ·) ih

theorem words_ofSource (source : String) :
    (ParseState.ofSource source).words = wordsOf (tokenize source) := by
  rw [ParseState.words, ParseState.ahead_ofSource]
  rfl

/-- The words of two texts with a line feed between them. -/
theorem wordsOf_joined (before after : String)
    (closed : ∀ token ∈ tokenize before, ¬ token.isOpenString) :
    wordsOf (tokenize (before ++ "\n" ++ after)) =
      wordsOf (tokenize before).dropLast ++ wordsOf (tokenize after) := by
  rw [tokenize_joined before after closed]
  simp

theorem tokenize_semicolon :
    tokenize ";" = [⟨.mark .semicolon, ";", 0, 1, 1⟩, ⟨.endOfInput, "", 1, 0, 1⟩] := by
  decide +kernel

theorem wordsOf_semicolon (after : String) :
    wordsOf (tokenize (";" ++ "\n" ++ after)) =
      (.mark .semicolon, ";") :: wordsOf (tokenize after) := by
  rw [wordsOf_joined ";" after (by rw [tokenize_semicolon]; decide), tokenize_semicolon]
  rfl

theorem Shared.append {q r left right : List Word} (before : List Word)
    (shared : Shared q r left right) : Shared q r (before ++ left) (before ++ right) := by
  induction before with
  | nil => exact shared
  | cons word before ih => exact .goesOn word ih

open ParseState

private theorem regroup (before after : String) :
    before ++ "\n;\n" ++ after = before ++ "\n" ++ (";" ++ "\n" ++ after) ∧
      before ++ "\n;" = before ++ "\n" ++ ";" := by
  have outer : "\n;\n" = "\n" ++ (";" ++ "\n") := rfl
  have inner : "\n;" = "\n" ++ ";" := rfl
  rw [outer, inner]
  simp only [String.append_assoc, and_self]

/-- The parse of a source is like that of its part up to the semicolon, and parts from it there. -/
theorem alike_at_semicolon (before after : String)
    (closed : ∀ token ∈ tokenize before, ¬ token.isOpenString) :
    Alike (wordsOf (tokenize after)) [(.endOfInput, "")]
      (ofSource (before ++ "\n;\n" ++ after)) (ofSource (before ++ "\n;")) := by
  have onlyEnd : wordsOf (tokenize ";") = [(.mark .semicolon, ";"), (.endOfInput, "")] := by
    rw [tokenize_semicolon]
    rfl
  have semicolon : Shared (wordsOf (tokenize after)) [(.endOfInput, "")]
      (wordsOf (tokenize (";" ++ "\n" ++ after))) (wordsOf (tokenize ";")) := by
    rw [wordsOf_semicolon, onlyEnd]
    exact .last _ (.inr rfl)
  rw [(regroup before after).1, (regroup before after).2]
  refine ⟨proper_ofSource _, proper_ofSource _, ?_, ?_⟩
  · rw [nesting_ofSource, nesting_ofSource]
  · rw [words_ofSource, words_ofSource, wordsOf_joined _ _ closed, wordsOf_joined _ _ closed]
    exact semicolon.append _

/-- In front of nothing but the end of input no statement is read. -/
theorem Behind.trees_of_end {state : ParseState} (behind : Behind [(.endOfInput, "")] state) :
    state.trees = [] := by
  obtain ⟨more, split⟩ := words_eq_cons state
  have kind : state.current.kind = .endOfInput :=
    congrArg Prod.fst (List.cons.inj (split.symm.trans behind.ahead)).1
  exact trees_of_isEnd (by simp [Token.isEnd, kind])

/-- Whatever stands in a source before a semicolon on a line of its own, as long as no string is
left open, the statements after the semicolon are those of the text after it. -/
theorem semicolon_parts (before after : String)
    (closed : ∀ token ∈ tokenize before, ¬ token.isOpenString) :
    (parseSource (before ++ "\n;\n" ++ after)).1.program.statements =
      (parseSource (before ++ "\n;")).1.program.statements ++
        (parseSource after).1.program.statements := by
  rw [parseSource_program, parseSource_program, parseSource_program, parse_statements,
    parse_statements, parse_statements]
  cases trees_alike (alike_at_semicolon before after closed) (nesting_ofSource _) with
  | together nothing =>
    rw [← words_ofSource] at nothing
    exact absurd nothing (words_ne_nil _)
  | @apart first s t left right flat trees trees' =>
    have rest : s.trees = (ofSource after).trees :=
      trees_congr left.proper (proper_ofSource after) flat.1 (nesting_ofSource after)
        (left.ahead.trans (words_ofSource after).symm)
    rw [trees, trees', rest, right.trees_of_end, List.append_nil]

theorem semicolon_parts_missing_operand :
    (∀ token ∈ tokenize "print 1 +", ¬ token.isOpenString) ∧
      (parseSource ("print 1 +" ++ "\n;\n" ++ "@ print 2;")).1.program.statements =
        (parseSource ("print 1 +" ++ "\n;")).1.program.statements ++
          (parseSource "@ print 2;").1.program.statements := by
  have closed : ∀ token ∈ tokenize "print 1 +", ¬ token.isOpenString := by decide +kernel
  exact ⟨closed, semicolon_parts _ _ closed⟩

end ScriptFront
