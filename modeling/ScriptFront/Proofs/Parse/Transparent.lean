import ScriptFront.Proofs.Parse.Boundary
import ScriptFront.Proofs.Token.Blank

/-!
# Error tokens and the program

Error tokens leave no trace in the program of a source: it is that of the source with blanks in
their places (`parseSource_blankErrors`). For the two give the same words, one token after the other
(`Cursor.wordsOf_blank`).
-/
namespace ScriptFront

namespace Cursor

theorem pastTrivia_blanks (count : Nat) (rest : List Char) (offset line : Nat) :
    pastTrivia false (List.replicate count ' ' ++ rest) offset line =
      pastTrivia false rest (offset + count) line := by
  induction count generalizing offset with
  | zero => rfl
  | succ count ih =>
    rw [List.replicate_succ, List.cons_append, pastTrivia, if_neg (by decide),
      if_pos (by simp [isBlank]), ih, Nat.add_right_comm, Nat.add_assoc]

/-- The tokens depend on where the trivia before them end. -/
theorem tokens_congr {cursor cursor' : Cursor} (same : cursor.skipTrivia = cursor'.skipTrivia) :
    cursor.tokens = cursor'.tokens := by
  have next : cursor.next = cursor'.next := by
    unfold Cursor.next
    rw [same]
  rw [tokens_eq cursor, tokens_eq cursor', next]

/-- The cursor in the text with blanks in place of errors. -/
def blank (cursor : Cursor) : Cursor :=
  { cursor with rest := blankFrom cursor.tokens cursor.offset cursor.rest }

/-- What stands in the place of the next token. -/
def blankNext (cursor : Cursor) (taken : List Char) : List Char :=
  if cursor.next.1.isError then List.replicate taken.length ' ' else taken

/-- The blanks spare the trivia before the next token, and the token unless it is an error. -/
theorem blank_rest {cursor : Cursor} {first : Char} {rest trivia : List Char}
    (left : cursor.skipTrivia.rest = first :: rest)
    (split : cursor.rest = trivia ++ cursor.skipTrivia.rest)
    (moved : cursor.skipTrivia.offset = cursor.offset + trivia.length) :
    cursor.blank.rest =
      trivia ++
        (cursor.blankNext (Front.ofChars first rest).taken ++ cursor.next.2.blank.rest) := by
  let taken := (Front.ofChars first rest).taken
  have next := next_of_cons left
  have tokens := tokens_of_notEnd (notEnd_of_cons left)
  have start : cursor.next.1.start = cursor.offset + trivia.length := by rw [next, ← moved]
  have stop : cursor.next.1.stop = cursor.offset + trivia.length + taken.length := by
    rw [Token.stop, start, next]
  have offset : cursor.next.2.offset = cursor.next.1.stop := by rw [stop, ← moved, next]
  have later := (tokens_starts cursor.next.2).2
  have whole : cursor.rest = trivia ++ (taken ++ cursor.next.2.rest) := by
    rw [split, left, Front.ofChars_split first rest, next]
  have before : blankFrom cursor.tokens cursor.offset trivia = trivia := by
    refine blankFrom_of_uncovered fun token among _ => .inr ?_
    rw [tokens] at among
    rcases List.mem_cons.mp among with rfl | behind
    · exact start.ge
    · have after := later token behind
      omega
  have within : blankFrom cursor.tokens (cursor.offset + trivia.length) taken =
      cursor.blankNext taken := by
    unfold blankNext
    split
    next isError => exact blankFrom_of_covered (by simp [tokens]) isError start.le stop.ge
    next notError =>
      refine blankFrom_of_uncovered fun token among isError => .inr ?_
      rw [tokens] at among
      rcases List.mem_cons.mp among with rfl | behind
      · exact absurd isError notError
      · have after := later token behind
        omega
  have after : blankFrom cursor.tokens (cursor.offset + trivia.length + taken.length)
      cursor.next.2.rest = cursor.next.2.blank.rest := by
    rw [tokens, ← stop, ← offset]
    exact blankFrom_cons offset.ge
  change blankFrom cursor.tokens cursor.offset cursor.rest = _
  rw [whole, blankFrom_append, blankFrom_append, before, within, after]

theorem skipTrivia_blank {cursor : Cursor} {first : Char} {rest : List Char}
    (left : cursor.skipTrivia.rest = first :: rest) :
    cursor.blank.skipTrivia =
      pastTrivia false
        (cursor.blankNext (Front.ofChars first rest).taken ++ cursor.next.2.blank.rest)
        cursor.skipTrivia.offset cursor.skipTrivia.line := by
  obtain ⟨trivia, split, moved, again⟩ :=
    pastTrivia_skips false cursor.rest cursor.offset cursor.line
  have someLeft : cursor.skipTrivia.rest ≠ [] := by simp [left]
  change pastTrivia false cursor.blank.rest cursor.offset cursor.line = _
  rw [blank_rest left split moved]
  exact (again someLeft).2 _

/-- Blanks in place of an error token only carry on the trivia before it. -/
theorem wordsOf_blank_of_error {cursor : Cursor} {first : Char} {rest : List Char}
    (left : cursor.skipTrivia.rest = first :: rest) (isError : cursor.next.1.isError) :
    wordsOf cursor.blank.tokens = wordsOf cursor.next.2.blank.tokens := by
  let count := (Front.ofChars first rest).taken.length
  let feeds := (Front.ofChars first rest).taken.count '\n'
  -- Blanks count no lines, so that what follows a string left open lies on another line.
  let onSameLine : Cursor :=
    ⟨cursor.next.2.blank.rest, cursor.skipTrivia.offset + count, cursor.skipTrivia.line⟩
  have shifted : cursor.next.2.blank = onSameLine.shift 0 feeds := by
    simp [blank, shift, onSameLine, next_of_cons left, count, feeds]
  have skipped : cursor.blank.skipTrivia = onSameLine.skipTrivia := by
    rw [skipTrivia_blank left, blankNext, if_pos isError, pastTrivia_blanks]
    rfl
  rw [tokens_congr skipped, shifted, tokens_shift, wordsOf_shift]

/-- A token that is no error is met again. -/
theorem next_blank_of_token {cursor : Cursor} {first : Char} {rest : List Char}
    (left : cursor.skipTrivia.rest = first :: rest) (notError : ¬ cursor.next.1.isError) :
    cursor.blank.next = (cursor.next.1, cursor.next.2.blank) := by
  have next := next_of_cons left
  have closed : (Front.ofChars first rest).found ≠ .error .unterminatedString := by
    intro found
    simp [next, Token.isError, Front.kind, found] at notError
  have dimmed : Dimmed (Front.ofChars first rest).after cursor.next.2.blank.rest := by
    have sameRest : cursor.next.2.rest = (Front.ofChars first rest).after := by rw [next]
    exact sameRest ▸ dimmed_blankFrom _ _ _
  have arrives := skipTrivia_blank left
  rw [blankNext, if_neg notError] at arrives
  rw [next_spared left closed dimmed.spares arrives, next]
  rfl

/-- Blanks in place of errors leave the same words. -/
theorem wordsOf_blank (cursor : Cursor) : wordsOf cursor.blank.tokens = wordsOf cursor.tokens := by
  induction cursor using scan_induction with
  | ends cursor isEnd =>
    have same : blankFrom cursor.tokens cursor.offset cursor.rest = cursor.rest := by
      refine blankFrom_of_uncovered fun token among isError => ?_
      rw [tokens_of_isEnd isEnd, List.mem_singleton] at among
      exact absurd isError (among ▸ Token.not_isError_of_isEnd isEnd)
    rw [blank, same]
  | goesOn cursor notEnd ih =>
    obtain ⟨first, rest, left⟩ := left_of_notEnd notEnd
    have tokens := tokens_of_notEnd notEnd
    by_cases isError : cursor.next.1.isError
    · rw [wordsOf_blank_of_error left isError, ih, tokens, wordsOf, wordsOf,
        withoutErrors_cons_of_isError isError]
    · have again := next_blank_of_token left isError
      have tokens' : cursor.blank.tokens = cursor.next.1 :: cursor.next.2.blank.tokens := by
        rw [tokens_eq, again, if_neg notEnd]
      rw [tokens, tokens', wordsOf, wordsOf, withoutErrors_cons isError, withoutErrors_cons isError]
      exact congrArg (cursor.next.1.word :: ·) ih

end Cursor

theorem start_blankErrors (source : String) :
    Cursor.start (blankErrors source) = (Cursor.start source).blank := by
  simp [Cursor.start, Cursor.blank, blankErrors, tokenize]

/-- Error tokens leave no trace in a program: it is that of the source with blanks in place of the
characters that error tokens cover. -/
theorem parseSource_blankErrors (source : String) :
    (parseSource (blankErrors source)).1.program = (parseSource source).1.program := by
  have words : wordsOf (tokenize (blankErrors source)) = wordsOf (tokenize source) := by
    rw [tokenize, start_blankErrors]
    exact Cursor.wordsOf_blank (Cursor.start source)
  have statements : (ParseState.ofSource (blankErrors source)).trees =
      (ParseState.ofSource source).trees := by
    refine trees_congr (ParseState.proper_ofSource _) (ParseState.proper_ofSource _)
      (ParseState.nesting_ofSource _) (ParseState.nesting_ofSource _) ?_
    rw [words_ofSource, words_ofSource, words]
  rw [← parse_statements, ← parse_statements] at statements
  rw [parseSource_program, parseSource_program]
  exact congrArg Program.mk statements

example : blankErrors "print @1; \"x" = "print  1;   " := by decide +kernel

end ScriptFront
