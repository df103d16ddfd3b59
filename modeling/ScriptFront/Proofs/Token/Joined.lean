import ScriptFront.Proofs.Token.Behind

/-!
# Scanning over a line feed

A line feed ends every token but a string that has not met its closing quote. So the tokens of two
texts with a line feed between them are those of the first without its end of input, followed by
those of the second, moved by what stands before it (`tokenize_joined`). An open string takes all
that is left of its text, also of the longer one, so where the first text ends in one the tokens are
never those of the two (`tokenize_composes`).
-/
namespace ScriptFront

/-- Whether a token stands for a string without a closing quote. -/
def Token.isOpenString (token : Token) : Bool :=
  token.isError && token.lexeme == ScanFault.unterminatedString.message

/-- The token in a text with so many characters and lines more before it. -/
def Token.shift (characters lines : Nat) (token : Token) : Token :=
  { token with start := token.start + characters, line := token.line + lines }

@[simp] theorem Token.shift_isError (characters lines : Nat) (token : Token) :
    (token.shift characters lines).isError = token.isError := rfl

@[simp] theorem Token.shift_isEnd (characters lines : Nat) (token : Token) :
    (token.shift characters lines).isEnd = token.isEnd := rfl

namespace Front

/-- What stands at the front, with a line feed and more text behind it all. -/
def extend (more : List Char) (front : Front) : Front :=
  { front with after := front.after ++ '\n' :: more }

@[simp] theorem extend_kind (more : List Char) (front : Front) :
    (front.extend more).kind = front.kind := rfl

@[simp] theorem extend_lexeme (more : List Char) (front : Front) :
    (front.extend more).lexeme = front.lexeme := rfl

variable (first : Char) (rest more : List Char)

theorem ofChars_joined (closed : (ofChars first rest).found ≠ .error .unterminatedString) :
    ofChars first (rest ++ '\n' :: more) = (ofChars first rest).extend more := by
  obtain ⟨others, taken⟩ := ofChars_taken first rest
  have whole := ofChars_rest taken
  have spares : Spares (ofChars first rest).after ((ofChars first rest).after ++ '\n' :: more) :=
    spares_of_prefix (List.prefix_refl _) (by decide) more
  calc ofChars first (rest ++ '\n' :: more)
      = ofChars first (others ++ ((ofChars first rest).after ++ '\n' :: more)) := by
        rw [← List.append_assoc, ← whole]
    _ = (ofChars first rest).extend more := by
        rw [ofChars_spared closed taken spares, extend, ← taken]

end Front

namespace Cursor

/-- The position after the last character. -/
def stop (cursor : Cursor) : Nat := cursor.offset + cursor.rest.length

/-- The line after the last line feed. -/
def lastLine (cursor : Cursor) : Nat := cursor.line + cursor.rest.count '\n'

/-- The cursor in a text that goes on behind a line feed. -/
def extend (more : List Char) (cursor : Cursor) : Cursor :=
  { cursor with rest := cursor.rest ++ '\n' :: more }

/-- The cursor behind the line feed. -/
def behind (more : List Char) (cursor : Cursor) : Cursor :=
  ⟨more, cursor.stop + 1, cursor.lastLine + 1⟩

theorem pastTrivia_stop (inComment : Bool) (rest : List Char) (offset line : Nat) :
    (pastTrivia inComment rest offset line).stop = offset + rest.length := by
  fun_induction pastTrivia inComment rest offset line with
  | case1 => rfl
  | case2 _ _ _ _ ih => rw [ih, List.length_cons]; omega
  | case3 _ _ _ _ _ _ _ ih => rw [ih, List.length_cons]; omega
  | case4 _ _ _ _ _ _ _ _ ih => rw [ih, List.length_cons]; omega
  | case5 => rfl

theorem pastTrivia_lastLine (inComment : Bool) (rest : List Char) (offset line : Nat) :
    (pastTrivia inComment rest offset line).lastLine = line + rest.count '\n' := by
  fun_induction pastTrivia inComment rest offset line with
  | case1 => rfl
  | case2 _ _ _ _ ih => rw [ih, List.count_cons_self]; omega
  | case3 _ c _ _ _ notFeed _ ih => rw [ih, List.count_cons_of_ne notFeed]
  | case4 _ c _ _ _ notFeed _ _ ih => rw [ih, List.count_cons_of_ne notFeed]
  | case5 => rfl

/-- Trivia before a token stay what they are; trivia to the end go on behind the line feed, where
no comment reaches. -/
theorem pastTrivia_joined (more : List Char) (inComment : Bool) (rest : List Char)
    (offset line : Nat) :
    pastTrivia inComment (rest ++ '\n' :: more) offset line =
      if (pastTrivia inComment rest offset line).rest = [] then
        pastTrivia false more (offset + rest.length + 1) (line + rest.count '\n' + 1)
      else (pastTrivia inComment rest offset line).extend more := by
  have moved (n : Nat) (k : Nat) : n + 1 + k + 1 = n + (k + 1) + 1 := by omega
  fun_induction pastTrivia inComment rest offset line with
  | case1 => simp [pastTrivia]
  | case2 inComment rest offset line ih =>
    rw [List.cons_append, pastTrivia, if_pos rfl, ih, moved, moved, List.count_cons_self,
      List.length_cons]
  | case3 inComment c rest offset line notFeed skipped ih =>
    rw [List.cons_append, pastTrivia, if_neg notFeed, if_pos skipped, ih, moved,
      List.count_cons_of_ne notFeed, List.length_cons]
  | case4 inComment c rest offset line notFeed notSkipped comment ih =>
    have stillComment : c = '/' ∧ (rest ++ '\n' :: more).head? = some '/' :=
      ⟨comment.1, by simp [List.head?_append, comment.2]⟩
    rw [List.cons_append, pastTrivia, if_neg notFeed, if_neg notSkipped, if_pos stillComment, ih,
      moved, List.count_cons_of_ne notFeed, List.length_cons]
  | case5 inComment c rest offset line notFeed notSkipped noComment =>
    have stillNone : ¬ (c = '/' ∧ (rest ++ '\n' :: more).head? = some '/') := by
      cases rest <;> simp_all
    rw [List.cons_append, pastTrivia, if_neg notFeed, if_neg notSkipped, if_neg stillNone,
      if_neg (by simp)]
    rfl

theorem next_stop (cursor : Cursor) : cursor.next.2.stop = cursor.stop := by
  have skipped : cursor.skipTrivia.stop = cursor.stop := pastTrivia_stop ..
  rw [← skipped]
  unfold next
  cases left : cursor.skipTrivia.rest with
  | nil => simp [left]
  | cons first rest =>
    have split := congrArg List.length (Front.ofChars_split first rest)
    simp only [stop, left, split, List.length_append]
    omega

theorem next_lastLine (cursor : Cursor) : cursor.next.2.lastLine = cursor.lastLine := by
  have skipped : cursor.skipTrivia.lastLine = cursor.lastLine := pastTrivia_lastLine ..
  rw [← skipped]
  unfold next
  cases left : cursor.skipTrivia.rest with
  | nil => simp [left]
  | cons first rest =>
    have split := congrArg (List.count '\n') (Front.ofChars_split first rest)
    simp only [lastLine, left, split, List.count_append]
    omega

theorem skipTrivia_extend (more : List Char) (cursor : Cursor) :
    (cursor.extend more).skipTrivia =
      if cursor.skipTrivia.rest = [] then (cursor.behind more).skipTrivia
      else cursor.skipTrivia.extend more :=
  pastTrivia_joined more false cursor.rest cursor.offset cursor.line

theorem found_of_closed {cursor : Cursor} {first : Char} {rest : List Char}
    (left : cursor.skipTrivia.rest = first :: rest) (closed : ¬ cursor.next.1.isOpenString) :
    (Front.ofChars first rest).found ≠ .error .unterminatedString := by
  intro found
  simp [next_of_cons left, Token.isOpenString, Token.isError, Front.kind, Front.lexeme, found]
    at closed

/-- The end of input is met where nothing is left, also behind the line feed. -/
theorem next_joined_of_isEnd (more : List Char) (cursor : Cursor) (isEnd : cursor.next.1.isEnd) :
    (cursor.extend more).next = (cursor.behind more).next := by
  unfold next
  rw [skipTrivia_extend, if_pos (left_of_isEnd isEnd)]

theorem next_joined (more : List Char) (cursor : Cursor) (notEnd : ¬ cursor.next.1.isEnd)
    (closed : ¬ cursor.next.1.isOpenString) :
    (cursor.extend more).next = (cursor.next.1, cursor.next.2.extend more) := by
  obtain ⟨first, rest, left⟩ := left_of_notEnd notEnd
  have terminated := found_of_closed left closed
  have someLeft : cursor.skipTrivia.rest ≠ [] := by simp [left]
  unfold next
  rw [skipTrivia_extend, if_neg someLeft]
  simp only [extend, left, List.cons_append, Front.ofChars_joined first rest more terminated,
    Front.extend_kind, Front.extend_lexeme]
  rfl

theorem behind_next (more : List Char) (cursor : Cursor) :
    cursor.next.2.behind more = cursor.behind more := by
  rw [behind, next_stop, next_lastLine]
  rfl

theorem tokens_joined (more : List Char) (cursor : Cursor)
    (closed : ∀ token ∈ cursor.tokens, ¬ token.isOpenString) :
    (cursor.extend more).tokens = cursor.tokens.dropLast ++ (cursor.behind more).tokens := by
  induction cursor using scan_induction with
  | ends cursor isEnd =>
    rw [tokens_eq, next_joined_of_isEnd more cursor isEnd, ← tokens_eq, tokens_of_isEnd isEnd]
    rfl
  | goesOn cursor notEnd ih =>
    rw [tokens_of_notEnd notEnd] at closed ⊢
    have this := next_joined more cursor notEnd (closed _ List.mem_cons_self)
    have onward := ih fun token among => closed token (List.mem_cons_of_mem _ among)
    have someLeft : cursor.next.2.tokens ≠ [] := (stream_tokens _).ne_nil
    rw [tokens_eq, this, if_neg notEnd, onward, behind_next,
      List.dropLast_cons_of_ne_nil someLeft, List.cons_append]

theorem pastTrivia_shift (characters lines : Nat) (inComment : Bool) (rest : List Char)
    (offset line : Nat) :
    pastTrivia inComment rest (offset + characters) (line + lines) =
      { pastTrivia inComment rest offset line with
        offset := (pastTrivia inComment rest offset line).offset + characters
        line := (pastTrivia inComment rest offset line).line + lines } := by
  fun_induction pastTrivia inComment rest offset line with
  | case1 => rfl
  | case2 inComment rest offset line ih =>
    rw [pastTrivia, if_pos rfl, ← ih, Nat.add_right_comm offset, Nat.add_right_comm line]
  | case3 inComment c rest offset line notFeed skipped ih =>
    rw [pastTrivia, if_neg notFeed, if_pos skipped, ← ih, Nat.add_right_comm offset]
  | case4 inComment c rest offset line notFeed notSkipped comment ih =>
    rw [pastTrivia, if_neg notFeed, if_neg notSkipped, if_pos comment, ← ih,
      Nat.add_right_comm offset]
  | case5 inComment c rest offset line notFeed notSkipped noComment =>
    rw [pastTrivia, if_neg notFeed, if_neg notSkipped, if_neg noComment]

/-- The cursor in a text with so many characters and lines more before it. -/
def shift (characters lines : Nat) (cursor : Cursor) : Cursor :=
  { cursor with offset := cursor.offset + characters, line := cursor.line + lines }

theorem next_shift (characters lines : Nat) (cursor : Cursor) :
    (cursor.shift characters lines).next =
      (cursor.next.1.shift characters lines, cursor.next.2.shift characters lines) := by
  have skipped : (cursor.shift characters lines).skipTrivia =
      cursor.skipTrivia.shift characters lines := pastTrivia_shift ..
  unfold next
  rw [skipped]
  cases left : cursor.skipTrivia.rest with
  | nil => simp only [shift, left, Token.shift]
  | cons first rest =>
    simp only [shift, left, Token.shift, Prod.mk.injEq, Token.mk.injEq, Cursor.mk.injEq, true_and]
    omega

theorem tokens_shift (characters lines : Nat) (cursor : Cursor) :
    (cursor.shift characters lines).tokens =
      cursor.tokens.map (Token.shift characters lines) := by
  induction cursor using scan_induction with
  | ends cursor isEnd =>
    rw [tokens_eq, next_shift, Token.shift_isEnd, if_pos isEnd, tokens_of_isEnd isEnd]
    rfl
  | goesOn cursor notEnd ih =>
    rw [tokens_eq, next_shift, Token.shift_isEnd, if_neg notEnd, tokens_of_notEnd notEnd, ih]
    rfl

end Cursor

/-- A text, a line feed and another text give the tokens of the one and then those of the other. -/
theorem tokenize_joined (before after : String)
    (closed : ∀ token ∈ tokenize before, ¬ token.isOpenString) :
    tokenize (before ++ "\n" ++ after) =
      (tokenize before).dropLast ++
        (tokenize after).map
          (Token.shift (before.toList.length + 1) (before.toList.count '\n' + 1)) := by
  have whole : Cursor.start (before ++ "\n" ++ after) =
      (Cursor.start before).extend after.toList := by
    simp [Cursor.start, Cursor.extend]
  have behind : (Cursor.start before).behind after.toList =
      (Cursor.start after).shift (before.toList.length + 1) (before.toList.count '\n' + 1) := by
    simp only [Cursor.behind, Cursor.stop, Cursor.lastLine, Cursor.start, Cursor.shift,
      Cursor.mk.injEq, true_and]
    omega
  rw [tokenize, whole, Cursor.tokens_joined _ _ closed, behind, Cursor.tokens_shift]
  rfl

/-- A string without a closing quote takes all that is left of the source. -/
theorem stop_of_isOpenString {source : String} {token : Token} (among : token ∈ tokenize source)
    (isOpen : token.isOpenString) : token.stop = source.toList.length := by
  obtain ⟨isError, message⟩ : token.isError ∧ token.lexeme = "Unterminated string" := by
    simpa [Token.isOpenString, ScanFault.message] using isOpen
  have notEnd : ¬ token.isEnd := fun isEnd => Token.not_isError_of_isEnd isEnd isError
  obtain ⟨first, rest, here, maximal⟩ := exists_maximal among notEnd
  obtain ⟨-, quoted, stray⟩ := maximal.isFault (maximal.isError_iff.mp isError)
  have quote : (first :: rest).head? = some '"' := by
    by_contra noQuote
    exact absurd (message.symm.trans (stray noQuote).1) (by decide)
  have left := congrArg List.length here
  have length := (quoted quote).2
  rw [List.length_drop, List.length_cons] at left
  rw [Token.stop, length, List.length_cons]
  omega

/-- Scanning composes over a line feed: the tokens of the text before it without the end of input,
and then those of the text behind it, moved by the characters and lines before them and otherwise
unchanged. Only a string that is left open before the line feed goes on behind it, and then the
tokens are never those of the two texts. -/
theorem tokenize_composes (before after : String) :
    ∃ words final, tokenize before = words ++ [final] ∧ final.isEnd ∧
      (∀ token ∈ words, ¬ token.isEnd) ∧
      (tokenize (before ++ "\n" ++ after) =
          words ++ (tokenize after).map (fun token =>
            { token with
              start := token.start + (before.toList.length + 1)
              line := token.line + (before.toList.count '\n' + 1) }) ↔
        ∀ token ∈ tokenize before, ¬ token.isOpenString) := by
  obtain ⟨words, final, split, others, isEnd⟩ := (stream_tokenize before).exists_concat
  refine ⟨words, final, split, isEnd, others, fun composed token among isOpen => ?_,
    fun closed => ?_⟩
  · have notEnd : ¬ token.isEnd := fun isEnd =>
      Token.not_isError_of_isEnd isEnd (Bool.and_eq_true_iff.mp isOpen).1
    have inside : token ∈ words := by
      rw [split, List.mem_append, List.mem_singleton] at among
      exact among.resolve_right fun same => notEnd (same ▸ isEnd)
    have again : token ∈ tokenize (before ++ "\n" ++ after) := by simp [composed, inside]
    have reached := stop_of_isOpenString among isOpen
    rw [stop_of_isOpenString again isOpen] at reached
    simp at reached
  · rw [tokenize_joined before after closed, split, List.dropLast_concat]
    rfl

end ScriptFront
