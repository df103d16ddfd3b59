import ScriptFront.Proofs.Token.Joined

/-!
# Layout

White space and comments stand between the tokens of a source. It can be laid out anew with other
white space and comments, as long as white space follows each of its words (`Layout`). Then the
tokens are the same, but for where they stand (`tokenize_layout`).
-/
namespace ScriptFront

namespace Token

/-- The characters of the source that the token covers. -/
def slice (source : String) (token : Token) : List Char :=
  (source.toList.drop token.start).take token.length

/-- The token wherever it stands. -/
def placeless (token : Token) : Token := { token with start := 0, line := 0 }

end Token

/-- White space and comments, of which each has its line feed. -/
inductive Gap : List Char → Prop where
  | nil : Gap []
  | white {c : Char} {rest : List Char} (isWhite : c ∈ whiteSpace) (gap : Gap rest) :
      Gap (c :: rest)
  | comment {body rest : List Char} (oneLine : '\n' ∉ body) (gap : Gap rest) :
      Gap ('/' :: '/' :: (body ++ '\n' :: rest))

/-- What can stand at the end of a text: the last comment needs no line feed. -/
inductive Ending : List Char → Prop where
  | gap {text : List Char} (gap : Gap text) : Ending text
  | comment {before body : List Char} (gap : Gap before) (oneLine : '\n' ∉ body) :
      Ending (before ++ '/' :: '/' :: body)

/-- Whether the text begins with white space. -/
def Spaced (text : List Char) : Prop := ∃ c rest, text = c :: rest ∧ c ∈ whiteSpace

/-- What can stand behind a word: further words, laid out. -/
inductive Trailing : List (List Char) → List Char → Prop where
  | nothing : Trailing [] []
  | ending {text : List Char} (spaced : Spaced text) (ending : Ending text) : Trailing [] text
  | word {gap word text : List Char} {words : List (List Char)} (spaced : Spaced gap)
      (isGap : Gap gap) (trailing : Trailing words text) :
      Trailing (word :: words) (gap ++ (word ++ text))

/-- A text of these words with gaps in front of them, between them and behind them. White space
follows each word, unless the text ends there. -/
inductive Layout : List (List Char) → List Char → Prop where
  | nothing {text : List Char} (ending : Ending text) : Layout [] text
  | word {gap word text : List Char} {words : List (List Char)} (isGap : Gap gap)
      (trailing : Trailing words text) : Layout (word :: words) (gap ++ (word ++ text))

theorem Trailing.layout {words : List (List Char)} {text : List Char}
    (trailing : Trailing words text) : Layout words text := by
  cases trailing with
  | nothing => exact .nothing (.gap .nil)
  | ending _ ending => exact .nothing ending
  | word _ isGap trailing => exact .word isGap trailing

theorem Spaced.spares {gap : List Char} (spaced : Spaced gap) (after more : List Char) :
    Spares after (gap ++ more) := by
  obtain ⟨c, rest, rfl, white⟩ := spaced
  exact spares_of_prefix List.nil_prefix white (rest ++ more)

theorem Trailing.spares {words : List (List Char)} {text : List Char}
    (trailing : Trailing words text) (after : List Char) : Spares after text := by
  cases trailing with
  | nothing => exact spares_nil after
  | ending spaced => simpa using spaced.spares after []
  | word spaced => exact spaced.spares after _

namespace Cursor

section Trivia

variable {body : List Char} (oneLine : '\n' ∉ body) (offset line : Nat)

include oneLine

theorem pastTrivia_comment (rest : List Char) :
    pastTrivia true (body ++ '\n' :: rest) offset line =
      pastTrivia false rest (offset + body.length + 1) (line + 1) := by
  induction body generalizing offset with
  | nil => rw [List.nil_append, pastTrivia, if_pos rfl, List.length_nil, Nat.add_zero]
  | cons c body ih =>
    obtain ⟨notFeed, oneLine⟩ := not_or.mp (mt List.mem_cons.mpr oneLine)
    rw [List.cons_append, pastTrivia, if_neg (Ne.symm notFeed), if_pos (Bool.true_or _), ih oneLine,
      List.length_cons, Nat.add_right_comm offset 1, Nat.add_assoc offset]

theorem pastTrivia_lastComment :
    pastTrivia true body offset line = ⟨[], offset + body.length, line⟩ := by
  induction body generalizing offset with
  | nil => rfl
  | cons c body ih =>
    obtain ⟨notFeed, oneLine⟩ := not_or.mp (mt List.mem_cons.mpr oneLine)
    rw [pastTrivia, if_neg (Ne.symm notFeed), if_pos (Bool.true_or _), ih oneLine, List.length_cons,
      Nat.add_right_comm offset 1, Nat.add_assoc offset]

end Trivia

theorem pastTrivia_slashes (rest : List Char) (offset line : Nat) :
    pastTrivia false ('/' :: '/' :: rest) offset line =
      pastTrivia true ('/' :: rest) (offset + 1) line := by
  rw [pastTrivia, if_neg (by decide), if_neg (by decide), if_pos ⟨rfl, rfl⟩]

/-- A gap is passed over, whatever stands behind it. -/
theorem pastTrivia_gap {gap : List Char} (isGap : Gap gap) (rest : List Char)
    (offset line : Nat) :
    ∃ offset' line',
      pastTrivia false (gap ++ rest) offset line = pastTrivia false rest offset' line' := by
  induction isGap generalizing offset line with
  | nil => exact ⟨offset, line, rfl⟩
  | @white c more isWhite _ ih =>
    by_cases feed : c = '\n'
    · obtain ⟨offset', line', onward⟩ := ih (offset + 1) (line + 1)
      exact ⟨offset', line', by rw [List.cons_append, pastTrivia, if_pos feed, onward]⟩
    · obtain ⟨offset', line', onward⟩ := ih (offset + 1) line
      have blank : isBlank c := by
        simpa [isBlank, feed, or_assoc] using mem_whiteSpace.mp isWhite
      refine ⟨offset', line', ?_⟩
      rw [List.cons_append, pastTrivia, if_neg feed, if_pos (by simp [blank]), onward]
  | @comment body more oneLine _ ih =>
    have slash : '\n' ∉ '/' :: body := by simpa using oneLine
    obtain ⟨offset', line', onward⟩ := ih (offset + 1 + ('/' :: body).length + 1) (line + 1)
    refine ⟨offset', line', ?_⟩
    calc pastTrivia false (('/' :: '/' :: (body ++ '\n' :: more)) ++ rest) offset line
        = pastTrivia true (('/' :: body) ++ '\n' :: (more ++ rest)) (offset + 1) line := by
          simp [pastTrivia_slashes]
      _ = pastTrivia false rest offset' line' := by rw [pastTrivia_comment slash, onward]

theorem pastTrivia_ending {text : List Char} (ending : Ending text) (offset line : Nat) :
    (pastTrivia false text offset line).rest = [] := by
  cases ending with
  | gap isGap =>
    obtain ⟨offset', line', passed⟩ := pastTrivia_gap isGap [] offset line
    rw [List.append_nil] at passed
    rw [passed]
    rfl
  | @comment before body isGap oneLine =>
    obtain ⟨offset', line', passed⟩ := pastTrivia_gap isGap ('/' :: '/' :: body) offset line
    have slash : '\n' ∉ '/' :: body := by simpa using oneLine
    rw [passed, pastTrivia_slashes, pastTrivia_lastComment slash]

theorem slice_next {source : String} {cursor : Cursor} {first : Char} {rest : List Char}
    (stands : cursor.StandsIn source.toList) (left : cursor.skipTrivia.rest = first :: rest) :
    cursor.next.1.slice source = (Front.ofChars first rest).taken := by
  have here : source.toList.drop cursor.skipTrivia.offset = first :: rest :=
    stands.skipTrivia.trans left
  rw [Token.slice, next_of_cons left]
  dsimp only
  rw [here, Front.ofChars_split first rest, List.take_left]

/-- Laid out anew, the text that is left gives the same tokens. -/
theorem tokens_layout {source : String} {cursor : Cursor} {text : List Char}
    (stands : cursor.StandsIn source.toList)
    (closed : ∀ token ∈ cursor.tokens, ¬ token.isOpenString)
    (layout : Layout (cursor.tokens.dropLast.map (Token.slice source)) text)
    (offset line : Nat) :
    (⟨text, offset, line⟩ : Cursor).tokens.map Token.placeless =
      cursor.tokens.map Token.placeless := by
  -- Behind a word the text is laid out for the words to come.
  induction cursor using scan_induction generalizing text offset line with
  | ends cursor isEnd =>
    let again : Cursor := ⟨text, offset, line⟩
    change again.tokens.map _ = _
    rw [tokens_of_isEnd isEnd] at layout ⊢
    cases layout with
    | nothing ending =>
      have left : again.skipTrivia.rest = [] := pastTrivia_ending ending offset line
      rw [tokens_of_isEnd (isEnd_of_nil left), next_of_nil left, next_of_nil (left_of_isEnd isEnd)]
      rfl
  | goesOn cursor notEnd ih =>
    let again : Cursor := ⟨text, offset, line⟩
    change again.tokens.map _ = _
    obtain ⟨first, rest, left⟩ := left_of_notEnd notEnd
    have someLeft : cursor.next.2.tokens ≠ [] := (stream_tokens _).ne_nil
    rw [tokens_of_notEnd notEnd] at closed layout ⊢
    rw [List.dropLast_cons_of_ne_nil someLeft, List.map_cons, slice_next stands left] at layout
    generalize words : cursor.next.2.tokens.dropLast.map (Token.slice source) = further at layout
    cases layout with
    | @word gap _ behind _ isGap trailing =>
      have closedHere := found_of_closed left (closed _ List.mem_cons_self)
      obtain ⟨offset', line', passed⟩ := pastTrivia_gap isGap
        ((Front.ofChars first rest).taken ++ behind) offset line
      have arrives : again.skipTrivia =
          pastTrivia false ((Front.ofChars first rest).taken ++ behind) offset' line' := passed
      have next := next_spared left closedHere (trailing.spares _) arrives
      have tokens : again.tokens = again.next.1 :: again.next.2.tokens := by
        apply tokens_of_notEnd
        rw [next]
        exact notEnd
      have onward := ih stands.next
        (fun token among => closed token (List.mem_cons_of_mem _ among))
        (words ▸ trailing.layout) again.next.2.offset again.next.2.line
      rw [tokens, List.map_cons, List.map_cons, next]
      rw [next] at onward
      exact congrArg (_ :: ·) onward

end Cursor

/-- White space and comments are immaterial to the tokens of a source but for where these stand. -/
theorem tokenize_layout {source text : String}
    (closed : ∀ token ∈ tokenize source, ¬ token.isOpenString)
    (layout : Layout ((tokenize source).dropLast.map (Token.slice source)) text.toList) :
    (tokenize text).map Token.placeless = (tokenize source).map Token.placeless := by
  have stands : (Cursor.start source).StandsIn source.toList := rfl
  exact Cursor.tokens_layout stands closed layout 0 1

end ScriptFront
