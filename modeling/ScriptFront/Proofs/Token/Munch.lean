import ScriptFront.Proofs.Token.Longest
import ScriptFront.Proofs.Token.Stream

/-!
# Maximal munch

Every token of a source is the longest token that stands in the source where it starts, and of the
kind of that text. Only where no token stands there is an error token (`tokens_maximal`).
-/
namespace ScriptFront

/-- Whether the token is the longest one at the front of a text, or says rightly that there is
none. -/
structure MaximalMunch (text : List Char) (token : Token) : Prop where
  isToken : (∃ munch, munch <+: text ∧ IsForm munch) →
    ¬ token.isError ∧ Longest text token.lexeme.toList ∧
      token.length = token.lexeme.toList.length ∧
      ∀ kind, Form kind token.lexeme.toList ↔ kind = token.kind
  isFault : (¬ ∃ munch, munch <+: text ∧ IsForm munch) →
    token.isError ∧
      (text.head? = some '"' →
        token.lexeme = "Unterminated string" ∧ token.length = text.length) ∧
      (text.head? ≠ some '"' → token.lexeme = "Unexpected character" ∧ token.length = 1)

theorem Form.ne_error {kind : Kind} {text : List Char} (form : Form kind text) :
    kind ≠ .error := by
  rintro rfl
  cases form with
  | mark spelled => simp [Kind.markText] at spelled
  | keyword _ spelled => simp [Kind.keywordText] at spelled

/-- Whether the token tells what stands at the front of a text. -/
structure Token.Tells (token : Token) (front : Front) : Prop where
  kind : token.kind = front.kind
  lexeme : token.lexeme = front.lexeme
  length : token.length = front.taken.length

theorem Munch.maximal {text : List Char} {front : Front} {token : Token}
    (munch : Munch text front) (tells : token.Tells front) : MaximalMunch text token := by
  cases munch with
  | token kind found form longest =>
    have sameKind : token.kind = kind := by rw [tells.kind, Front.kind, found]
    have sameText : token.lexeme.toList = front.taken := by
      rw [tells.lexeme, Front.lexeme, found, String.toList_ofList]
    refine ⟨fun _ => ⟨?_, ?_, ?_, ?_⟩, fun none => ?_⟩
    · simpa [Token.isError, sameKind] using form.ne_error
    · rwa [sameText]
    · rw [tells.length, sameText]
    · intro other
      rw [sameText, sameKind]
      exact ⟨fun form' => form'.unique form, fun same => same ▸ form⟩
    · exact absurd ⟨_, longest.isPrefix, longest.isForm⟩ none
  | openString found quote taken none =>
    refine ⟨fun found => absurd found.choose_spec.2 (none _ found.choose_spec.1), fun _ => ?_⟩
    refine ⟨by simp [Token.isError, tells.kind, Front.kind, found], fun _ => ⟨?_, ?_⟩,
      fun other => absurd quote other⟩
    · rw [tells.lexeme, Front.lexeme, found]
      rfl
    · rw [tells.length, taken]
  | stray found noQuote taken none =>
    refine ⟨fun found => absurd found.choose_spec.2 (none _ found.choose_spec.1), fun _ => ?_⟩
    refine ⟨by simp [Token.isError, tells.kind, Front.kind, found],
      fun quote => absurd quote noQuote, fun _ => ⟨?_, ?_⟩⟩
    · rw [tells.lexeme, Front.lexeme, found]
      rfl
    · rw [tells.length, taken]

/-- An error token stands only where no token does. -/
theorem MaximalMunch.isError_iff {text : List Char} {token : Token}
    (maximal : MaximalMunch text token) :
    token.isError ↔ ¬ ∃ munch, munch <+: text ∧ IsForm munch :=
  ⟨fun isError found => (maximal.isToken found).1 isError, fun none => (maximal.isFault none).1⟩

namespace Cursor

/-- Trivia end in front of a token whatever that is, since a comment reaches to its line feed. -/
theorem pastTrivia_skips (inComment : Bool) (rest : List Char) (offset line : Nat) :
    ∃ trivia, rest = trivia ++ (pastTrivia inComment rest offset line).rest ∧
      (pastTrivia inComment rest offset line).offset = offset + trivia.length ∧
      ((pastTrivia inComment rest offset line).rest ≠ [] →
        (inComment = true → trivia ≠ []) ∧
        ∀ other, pastTrivia inComment (trivia ++ other) offset line =
          pastTrivia false other (pastTrivia inComment rest offset line).offset
            (pastTrivia inComment rest offset line).line) := by
  fun_induction pastTrivia inComment rest offset line with
  | case1 => exact ⟨[], rfl, rfl, fun left => absurd rfl left⟩
  | case2 inComment rest offset line ih =>
    obtain ⟨trivia, split, moved, again⟩ := ih
    refine ⟨'\n' :: trivia, congrArg _ split, by rw [moved, List.length_cons]; omega,
      fun left => ⟨by simp, fun other => ?_⟩⟩
    rw [List.cons_append, pastTrivia, if_pos rfl, (again left).2]
  | case3 inComment c rest offset line notFeed skipped ih =>
    obtain ⟨trivia, split, moved, again⟩ := ih
    refine ⟨c :: trivia, congrArg _ split, by rw [moved, List.length_cons]; omega,
      fun left => ⟨by simp, fun other => ?_⟩⟩
    rw [List.cons_append, pastTrivia, if_neg notFeed, if_pos skipped, (again left).2]
  | case4 inComment c rest offset line notFeed notSkipped comment ih =>
    obtain ⟨trivia, split, moved, again⟩ := ih
    refine ⟨c :: trivia, congrArg _ split, by rw [moved, List.length_cons]; omega,
      fun left => ⟨by simp, fun other => ?_⟩⟩
    have opens : c = '/' ∧ (trivia ++ other).head? = some '/' := by
      obtain ⟨slash, more, rfl⟩ := List.exists_cons_of_ne_nil ((again left).1 rfl)
      rw [split] at comment
      exact comment
    rw [List.cons_append, pastTrivia, if_neg notFeed, if_neg notSkipped, if_pos opens,
      (again left).2]
  | case5 inComment c rest offset line notFeed notSkipped noComment =>
    have outside : inComment = false := by
      cases inComment with
      | true => simp at notSkipped
      | false => rfl
    subst outside
    exact ⟨[], rfl, rfl, fun _ => ⟨by simp, fun other => rfl⟩⟩

variable {cursor : Cursor} {first : Char} {rest text : List Char}

theorem next_of_nil (left : cursor.skipTrivia.rest = []) :
    cursor.next =
      (⟨.endOfInput, "", cursor.skipTrivia.offset, 0, cursor.skipTrivia.line⟩,
        cursor.skipTrivia) := by
  unfold next
  simp only [left]

theorem next_of_cons (left : cursor.skipTrivia.rest = first :: rest) :
    cursor.next =
      (⟨(Front.ofChars first rest).kind, (Front.ofChars first rest).lexeme,
          cursor.skipTrivia.offset, (Front.ofChars first rest).taken.length,
          cursor.skipTrivia.line + (Front.ofChars first rest).taken.count '\n'⟩,
        ⟨(Front.ofChars first rest).after,
          cursor.skipTrivia.offset + (Front.ofChars first rest).taken.length,
          cursor.skipTrivia.line + (Front.ofChars first rest).taken.count '\n'⟩) := by
  unfold next
  simp only [left]

theorem notEnd_of_cons (left : cursor.skipTrivia.rest = first :: rest) :
    ¬ cursor.next.1.isEnd := by
  have notEnd := (Front.spelled_ofChars first rest).notEnd
  simpa [next_of_cons left, Token.isEnd] using notEnd

theorem isEnd_of_nil (left : cursor.skipTrivia.rest = []) : cursor.next.1.isEnd := by
  rw [next_of_nil left]
  rfl

theorem left_of_isEnd (isEnd : cursor.next.1.isEnd) : cursor.skipTrivia.rest = [] := by
  cases left : cursor.skipTrivia.rest with
  | nil => rfl
  | cons first rest => exact absurd isEnd (notEnd_of_cons left)

theorem left_of_notEnd (notEnd : ¬ cursor.next.1.isEnd) :
    ∃ first rest, cursor.skipTrivia.rest = first :: rest := by
  cases left : cursor.skipTrivia.rest with
  | nil => simp [next_of_nil left, Token.isEnd] at notEnd
  | cons first rest => exact ⟨first, rest, rfl⟩

/-- Whether the cursor stands where it says in the text. -/
def StandsIn (text : List Char) (cursor : Cursor) : Prop :=
  text.drop cursor.offset = cursor.rest

theorem StandsIn.skipTrivia (stands : cursor.StandsIn text) : cursor.skipTrivia.StandsIn text := by
  obtain ⟨trivia, split, moved, -⟩ := pastTrivia_skips false cursor.rest cursor.offset cursor.line
  change text.drop (pastTrivia false cursor.rest cursor.offset cursor.line).offset = _
  rw [moved, ← List.drop_drop, stands, split, List.drop_left]
  rfl

theorem StandsIn.next (stands : cursor.StandsIn text) : cursor.next.2.StandsIn text := by
  have skipped := stands.skipTrivia
  cases left : cursor.skipTrivia.rest with
  | nil =>
    rw [next_of_nil left]
    exact skipped
  | cons first rest =>
    rw [next_of_cons left]
    change text.drop (_ + _) = (Front.ofChars first rest).after
    rw [← List.drop_drop, skipped, left, Front.ofChars_split first rest, List.drop_left]

/-- A token tells what stands in the text at its start. -/
theorem StandsIn.tells (stands : cursor.StandsIn text) {token : Token}
    (among : token ∈ cursor.tokens) (notEnd : ¬ token.isEnd) :
    ∃ first rest, text.drop token.start = first :: rest ∧
      token.Tells (Front.ofChars first rest) := by
  obtain ⟨scanned, stands, rfl⟩ := exists_of_mem_tokens StandsIn.next stands among
  obtain ⟨first, rest, left⟩ := left_of_notEnd notEnd
  rw [next_of_cons left]
  exact ⟨first, rest, stands.skipTrivia.trans left, rfl, rfl, rfl⟩

end Cursor

/-- Something is left of the source where a token starts, unless that is the end of input, and the
token is the longest one at the front of it. -/
theorem exists_maximal {source : String} {token : Token} (among : token ∈ tokenize source)
    (notEnd : ¬ token.isEnd) :
    ∃ first rest, source.toList.drop token.start = first :: rest ∧
      MaximalMunch (first :: rest) token := by
  have stands : (Cursor.start source).StandsIn source.toList := rfl
  obtain ⟨first, rest, here, tells⟩ := stands.tells among notEnd
  exact ⟨first, rest, here, (Front.munch_ofChars first rest).maximal tells⟩

/-- An error token has the message of a fault for its lexeme. -/
theorem lexeme_of_isError {source : String} {token : Token} (among : token ∈ tokenize source)
    (isError : token.isError) : ∃ fault : ScanFault, token.lexeme = fault.message := by
  have notEnd : ¬ token.isEnd := fun isEnd => Token.not_isError_of_isEnd isEnd isError
  obtain ⟨first, rest, -, maximal⟩ := exists_maximal among notEnd
  obtain ⟨-, quoted, stray⟩ := maximal.isFault (maximal.isError_iff.mp isError)
  by_cases quote : first = '"'
  · exact ⟨.unterminatedString, (quoted (congrArg some quote)).1⟩
  · exact ⟨.unexpectedCharacter, (stray fun same => quote (Option.some.inj same)).1⟩

/-- The end of input has an empty lexeme. -/
theorem lexeme_of_isEnd {source : String} {token : Token} (among : token ∈ tokenize source)
    (isEnd : token.isEnd) : token.lexeme = "" := by
  obtain ⟨cursor, -, rfl⟩ :=
    Cursor.exists_of_mem_tokens (P := fun _ => True) (fun _ => trivial) trivial among
  rw [Cursor.next_of_nil (Cursor.left_of_isEnd isEnd)]

/-- The lexeme of any other token has the form of its kind. -/
theorem form_lexeme {source : String} {token : Token} (among : token ∈ tokenize source)
    (notEnd : ¬ token.isEnd) (notError : ¬ token.isError) :
    Form token.kind token.lexeme.toList := by
  obtain ⟨first, rest, -, maximal⟩ := exists_maximal among notEnd
  have found : ∃ munch, munch <+: first :: rest ∧ IsForm munch :=
    Classical.not_not.mp (mt maximal.isError_iff.mpr notError)
  exact ((maximal.isToken found).2.2.2 _).mpr rfl

/-- Each token of a source is the longest one that stands where it starts, of the kind of that
text. An error token stands only where no token does: for all the rest of the source after a quote,
and otherwise for one character. -/
theorem tokens_maximal {source : String} {token : Token} (among : token ∈ tokenize source)
    (notEnd : ¬ token.isEnd) : MaximalMunch (source.toList.drop token.start) token := by
  have stands : (Cursor.start source).StandsIn source.toList := rfl
  obtain ⟨first, rest, here, tells⟩ := stands.tells among notEnd
  rw [here]
  exact (Front.munch_ofChars first rest).maximal tells

theorem tokens_maximal_notEquals :
    (⟨.mark .exclamationEquals, "!=", 4, 2, 1⟩ : Token) ∈ tokenize "iffy!==1.5.\"" ∧
      ¬ (⟨.mark .exclamationEquals, "!=", 4, 2, 1⟩ : Token).isEnd ∧
      MaximalMunch ("iffy!==1.5.\"".toList.drop 4) ⟨.mark .exclamationEquals, "!=", 4, 2, 1⟩ := by
  have among : (⟨.mark .exclamationEquals, "!=", 4, 2, 1⟩ : Token) ∈ tokenize "iffy!==1.5.\"" := by
    decide +kernel
  have notEnd : ¬ (⟨.mark .exclamationEquals, "!=", 4, 2, 1⟩ : Token).isEnd := by decide
  exact ⟨among, notEnd, tokens_maximal among notEnd⟩

end ScriptFront
