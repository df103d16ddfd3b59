import ScriptFront.Proofs.Token.Tiling

/-!
# Tokens one at a time

A cursor at the end of input stays there: what it gives next is the same end of input, and so is
where it goes (`Cursor.next_of_isEnd`). Before that every token takes a character. So pulling tokens
one at a time gives those of the whole scan and then the end of input over and over, and the scan
is over after as many tokens as the source has characters, and one more (`pulls_tokenize`).
-/
namespace ScriptFront

namespace Cursor

/-- Nothing is left to pass over at the end of input, and no line to count. -/
theorem next_of_isEnd {cursor : Cursor} (isEnd : cursor.next.1.isEnd) :
    cursor.next.2.next = cursor.next := by
  have left := left_of_isEnd isEnd
  have stays : cursor.skipTrivia.skipTrivia = cursor.skipTrivia := by
    rw [skipTrivia, left, pastTrivia, ← left]
  rw [next_of_nil left, next_of_nil (by rw [stays, left]), stays]

theorem pulls_of_isEnd {cursor : Cursor} (isEnd : cursor.next.1.isEnd) (count : Nat) :
    cursor.pulls count = List.replicate count cursor.next.1 := by
  induction count generalizing cursor with
  | zero => rfl
  | succ count ih =>
    have same := next_of_isEnd isEnd
    rw [pulls, ih (by rwa [same]), same, List.replicate_succ]

/-- The tokens pulled are those of the scan, the last of which is repeated. -/
theorem pulls_eq_take (cursor : Cursor) {final : Token}
    (last : cursor.tokens.getLast? = some final) (count : Nat) :
    cursor.pulls count = (cursor.tokens ++ List.replicate count final).take count := by
  induction cursor using scan_induction generalizing count with
  | ends cursor isEnd =>
    rw [tokens_of_isEnd isEnd] at last ⊢
    obtain rfl : cursor.next.1 = final := Option.some.inj last
    rw [pulls_of_isEnd isEnd, List.singleton_append, ← List.replicate_succ, List.take_replicate,
      Nat.min_eq_left (Nat.le_succ count)]
  | goesOn cursor notEnd ih =>
    have some : cursor.next.2.tokens ≠ [] := (stream_tokens _).ne_nil
    rw [tokens_of_notEnd notEnd] at last ⊢
    rw [List.getLast?_cons_of_ne_nil some] at last
    cases count with
    | zero => rfl
    | succ count =>
      -- The last of the copies is out of reach behind the other tokens.
      have enough : count ≤ (cursor.next.2.tokens ++ List.replicate count final).length := by
        rw [List.length_append, List.length_replicate]
        omega
      rw [pulls, ih last, List.cons_append, List.take_succ_cons, List.replicate_succ',
        ← List.append_assoc, List.take_append_of_le_length enough]

theorem tokens_length_le (cursor : Cursor) : cursor.tokens.length ≤ cursor.rest.length + 1 := by
  induction cursor using scan_induction with
  | ends cursor isEnd =>
    rw [tokens_of_isEnd isEnd]
    exact Nat.succ_le_succ (Nat.zero_le _)
  | goesOn cursor notEnd ih =>
    have shorter := next_shorter cursor notEnd
    rw [tokens_of_notEnd notEnd, List.length_cons]
    omega

end Cursor

/-- The end of input is told by the source alone. -/
theorem eq_of_isEnd {source : String} {token : Token} (among : token ∈ tokenize source)
    (isEnd : token.isEnd) :
    token = ⟨.endOfInput, "", source.toList.length, 0, 1 + source.toList.count '\n'⟩ := by
  have kind : token.kind = .endOfInput := by simpa [Token.isEnd] using isEnd
  obtain ⟨start, length⟩ := place_of_isEnd among isEnd
  have line := line_eq_count among
  rw [Token.stop, start, length, Nat.add_zero, List.take_length] at line
  calc token = ⟨token.kind, token.lexeme, token.start, token.length, token.line⟩ := rfl
    _ = _ := by rw [kind, lexeme_of_isEnd among isEnd, start, length, line]

/-- Tokens pulled one at a time from the start of a source are the tokens of the whole scan, and
after these the end of input again and again, unchanged in every part. The scan stops at the first
end of input, which it meets behind at most as many tokens as the source has characters. -/
theorem pulls_tokenize (source : String) :
    ∃ words final, tokenize source = words ++ [final] ∧ (∀ token ∈ words, ¬ token.isEnd) ∧
      final = ⟨.endOfInput, "", source.toList.length, 0, 1 + source.toList.count '\n'⟩ ∧
      (∀ count, (Cursor.start source).pulls count =
        (tokenize source ++ List.replicate count final).take count) ∧
      (tokenize source).length ≤ source.toList.length + 1 := by
  obtain ⟨words, final, split, others, isEnd⟩ := (stream_tokenize source).exists_concat
  have last : (tokenize source).getLast? = some final := by rw [split, List.getLast?_concat]
  have among : final ∈ tokenize source := by simp [split]
  exact ⟨words, final, split, others, eq_of_isEnd among isEnd,
    Cursor.pulls_eq_take (Cursor.start source) last, Cursor.tokens_length_le (Cursor.start source)⟩

end ScriptFront
