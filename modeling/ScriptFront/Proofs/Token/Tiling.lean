import ScriptFront.Proofs.Token.Lines

/-!
# Tokens tile their source

The tokens of a source stand one behind the other, and between them there is nothing but white space
and comments. So the gaps and what the tokens cover make up the source, in order, and nothing is
lost or taken twice (`tokenize_tiles`).

A scan reads a comment character by character, so what it passes over is followed together with the
two slashes of the comment that it may stand in (`opening`) and, where the text ends, with the line
feed that its last comment needs none of (`closing`).
-/
namespace ScriptFront

/-- The characters of a source from one position to another. -/
def between (source : String) (start stop : Nat) : List Char :=
  (source.toList.drop start).take (stop - start)

/-- The texts in front of tokens: from a position to the first one, and from each one to the
next. -/
def gaps (source : String) (offset : Nat) : List Token → List (List Char)
  | [] => []
  | token :: rest => between source offset token.start :: gaps source token.stop rest

/-- Tokens that are laid out over a source, in its order and with white space and comments in front
of them. -/
structure Tiling (source : String) (tokens : List Token) : Prop where
  /-- The end of input stands behind the last character, and there is no other one. -/
  ends : ∃ words last, tokens = words ++ [last] ∧
    (∀ token ∈ words, ¬ token.isEnd ∧ 0 < token.length) ∧
    last.isEnd ∧ last.start = source.toList.length ∧ last.length = 0
  apart : tokens.Pairwise fun before after => before.stop ≤ after.start
  inside : ∀ token ∈ tokens, token.stop ≤ source.toList.length
  lexeme : ∀ token ∈ tokens, ¬ token.isError → token.lexeme.toList = token.slice source
  /-- Only a comment in front of the end of input can go without a line feed. -/
  gaps : ∃ inner final, gaps source 0 tokens = inner ++ [final] ∧ (∀ gap ∈ inner, Gap gap) ∧
    Ending final
  /-- Gaps and what tokens cover, in turn, are the whole source. -/
  whole : (List.zipWith (· ++ ·) (ScriptFront.gaps source 0 tokens)
    (tokens.map (Token.slice source))).flatten = source.toList

theorem mem_whiteSpace_of_isBlank {c : Char} (blank : isBlank c) : c ∈ whiteSpace := by
  simp only [isBlank, Bool.or_eq_true, decide_eq_true_eq] at blank
  rcases blank with (rfl | rfl) | rfl <;> decide

section Gaps

variable {gap text : List Char}

theorem Gap.append (isGap : Gap gap) (more : Gap text) : Gap (gap ++ text) := by
  induction isGap with
  | nil => exact more
  | white isWhite _ ih => exact .white isWhite ih
  | @comment body rest oneLine _ ih =>
    have behind := Gap.comment oneLine ih
    simpa using behind

theorem Gap.ending (isGap : Gap gap) (ending : Ending text) : Ending (gap ++ text) := by
  cases ending with
  | gap more => exact .gap (isGap.append more)
  | comment before oneLine =>
    rw [← List.append_assoc]
    exact .comment (isGap.append before) oneLine

/-- A text is an ending if the line feed that its last comment needs none of would make it a gap. -/
theorem ending_of_gap (isGap : Gap (text ++ ['\n'])) : Ending text := by
  generalize whole : text ++ ['\n'] = closed at isGap
  induction isGap generalizing text with
  | nil => simp at whole
  | @white c rest isWhite _ ih =>
    cases text with
    | nil => exact .gap .nil
    | cons d text =>
      obtain ⟨rfl, same⟩ := List.cons.inj whole
      exact (Gap.white isWhite .nil).ending (ih same)
  | @comment body rest oneLine _ ih =>
    rcases List.eq_nil_or_concat rest with rfl | ⟨more, feed, rfl⟩
    · have same : text = '/' :: '/' :: body := List.append_inj_left' whole rfl
      rw [same]
      exact .comment .nil oneLine
    · have split : text ++ ['\n'] = ('/' :: '/' :: (body ++ '\n' :: more)) ++ [feed] := by
        simpa using whole
      obtain ⟨same, last⟩ := List.append_inj' split rfl
      rw [List.singleton_inj] at last
      subst last
      have behind := (Gap.comment oneLine .nil).ending (ih (List.concat_eq_append.symm))
      rw [same]
      simpa using behind

theorem gap_slashes_iff : Gap ('/' :: '/' :: text) ↔
    ∃ body rest, text = body ++ '\n' :: rest ∧ '\n' ∉ body ∧ Gap rest := by
  constructor
  · generalize whole : '/' :: '/' :: text = slashed
    intro isGap
    cases isGap with
    | nil => simp at whole
    | white isWhite =>
      obtain ⟨rfl, -⟩ := List.cons.inj whole
      simp [whiteSpace] at isWhite
    | @comment body rest oneLine more => exact ⟨body, rest, by simpa using whole, oneLine, more⟩
  · rintro ⟨body, rest, rfl, oneLine, more⟩
    exact .comment oneLine more

/-- What is in a comment does not matter, as long as no line feed is. -/
theorem gap_slashes_cons {c : Char} (notFeed : c ≠ '\n') :
    Gap ('/' :: '/' :: c :: text) ↔ Gap ('/' :: '/' :: text) := by
  rw [gap_slashes_iff, gap_slashes_iff]
  constructor
  · rintro ⟨body, rest, split, oneLine, more⟩
    cases body with
    | nil => exact absurd (List.cons.inj split).1 notFeed
    | cons d body =>
      exact ⟨body, rest, (List.cons.inj split).2, mt (List.mem_cons_of_mem _) oneLine, more⟩
  · rintro ⟨body, rest, rfl, oneLine, more⟩
    exact ⟨c :: body, rest, rfl, by simp [notFeed.symm, oneLine], more⟩

end Gaps

namespace Cursor

/-- What the comment that a cursor stands in began with. -/
def opening (inComment : Bool) : List Char := if inComment then ['/', '/'] else []

/-- The line feed that a text could end with. -/
def closing (rest : List Char) : List Char := if rest = [] then ['\n'] else []

theorem pastTrivia_passes (inComment : Bool) (rest : List Char) (offset line : Nat) :
    ∃ passed, rest = passed ++ (pastTrivia inComment rest offset line).rest ∧
      (pastTrivia inComment rest offset line).offset = offset + passed.length ∧
      Gap (opening inComment ++
        (passed ++ closing (pastTrivia inComment rest offset line).rest)) := by
  fun_induction pastTrivia inComment rest offset line with
  | case1 inComment offset line =>
    refine ⟨[], rfl, rfl, ?_⟩
    cases inComment with
    | false => exact .white (by simp [whiteSpace]) .nil
    | true => exact .comment List.not_mem_nil .nil
  | case2 inComment rest offset line ih =>
    obtain ⟨passed, split, moved, isGap⟩ := ih
    refine ⟨'\n' :: passed, congrArg _ split, by rw [moved, List.length_cons]; omega, ?_⟩
    cases inComment with
    | false => exact .white (by simp [whiteSpace]) isGap
    | true => exact .comment List.not_mem_nil isGap
  | case3 inComment c rest offset line notFeed skipped ih =>
    obtain ⟨passed, split, moved, isGap⟩ := ih
    refine ⟨c :: passed, congrArg _ split, by rw [moved, List.length_cons]; omega, ?_⟩
    cases inComment with
    | false =>
      have blank : isBlank c := by simpa using skipped
      exact .white (mem_whiteSpace_of_isBlank blank) isGap
    | true => exact (gap_slashes_cons notFeed).mpr isGap
  | case4 inComment c rest offset line notFeed notSkipped comment ih =>
    obtain ⟨passed, split, moved, isGap⟩ := ih
    refine ⟨c :: passed, congrArg _ split, by rw [moved, List.length_cons]; omega, ?_⟩
    obtain ⟨rfl, slash⟩ := comment
    rw [Bool.or_eq_true, not_or, Bool.not_eq_true] at notSkipped
    obtain ⟨rfl, -⟩ := notSkipped
    cases passed with
    | nil =>
      -- The comment would have been left right behind its first slash.
      have some : (pastTrivia true rest (offset + 1) line).rest ≠ [] := by
        rw [split] at slash
        intro none
        simp [none] at slash
      obtain ⟨body, rest, split, -⟩ := gap_slashes_iff.mp isGap
      simp [closing, some] at split
    | cons d passed =>
      obtain rfl : d = '/' := by
        rw [split] at slash
        exact Option.some.inj slash
      exact (gap_slashes_cons notFeed).mp isGap
  | case5 inComment c rest offset line notFeed notSkipped noComment =>
    rw [Bool.or_eq_true, not_or, Bool.not_eq_true] at notSkipped
    obtain ⟨rfl, -⟩ := notSkipped
    exact ⟨[], rfl, rfl, .nil⟩

theorem next_token_start (cursor : Cursor) : cursor.next.1.start = cursor.skipTrivia.offset := by
  cases left : cursor.skipTrivia.rest with
  | nil => rw [next_of_nil left]
  | cons first rest => rw [next_of_cons left]

/-- Tokens are apart, since each starts at or behind the cursor that it is scanned from. -/
theorem tokens_apart (cursor : Cursor) :
    cursor.tokens.Pairwise fun before after => before.stop ≤ after.start := by
  refine (tokens_pairwise (fun cursor token => cursor.offset ≤ token.start) next_start ?_ cursor).1
  intro cursor notEnd token later
  have here := next_start cursor
  have after := next_offset cursor notEnd
  rw [next_token_stop]
  omega

namespace StandsIn

variable {source : String} {cursor : Cursor} (stands : cursor.StandsIn source.toList)

include stands

/-- What is left of the source begins with the gap in front of the next token. -/
theorem rest_eq_between : cursor.rest =
    between source cursor.offset cursor.next.1.start ++ cursor.skipTrivia.rest ∧
      Gap (between source cursor.offset cursor.next.1.start ++ closing cursor.skipTrivia.rest) := by
  obtain ⟨passed, split, moved, isGap⟩ : ∃ passed, cursor.rest = passed ++ cursor.skipTrivia.rest ∧
      cursor.skipTrivia.offset = cursor.offset + passed.length ∧
      Gap (passed ++ closing cursor.skipTrivia.rest) :=
    pastTrivia_passes false cursor.rest cursor.offset cursor.line
  have same : between source cursor.offset cursor.next.1.start = passed := by
    rw [between, next_token_start, moved, Nat.add_sub_cancel_left, stands, split, List.take_left]
  rw [same]
  exact ⟨split, isGap⟩

theorem gap_of_notEnd (notEnd : ¬ cursor.next.1.isEnd) :
    Gap (between source cursor.offset cursor.next.1.start) := by
  obtain ⟨first, rest, left⟩ := left_of_notEnd notEnd
  have isGap := stands.rest_eq_between.2
  rwa [left, closing, if_neg (List.cons_ne_nil first rest), List.append_nil] at isGap

theorem ending_of_isEnd (isEnd : cursor.next.1.isEnd) :
    Ending (between source cursor.offset cursor.next.1.start) := by
  have isGap := stands.rest_eq_between.2
  rw [left_of_isEnd isEnd, closing, if_pos rfl] at isGap
  exact ending_of_gap isGap

theorem tokens_gaps : ∃ inner final, gaps source cursor.offset cursor.tokens = inner ++ [final] ∧
    (∀ gap ∈ inner, Gap gap) ∧ Ending final := by
  induction cursor using scan_induction with
  | ends cursor isEnd =>
    rw [tokens_of_isEnd isEnd]
    exact ⟨[], _, rfl, by simp, stands.ending_of_isEnd isEnd⟩
  | goesOn cursor notEnd ih =>
    obtain ⟨inner, final, split, areGaps, ending⟩ := ih stands.next
    refine ⟨between source cursor.offset cursor.next.1.start :: inner, final, ?_, ?_, ending⟩
    · rw [tokens_of_notEnd notEnd, gaps, next_token_stop, split, List.cons_append]
    · rw [List.forall_mem_cons]
      exact ⟨stands.gap_of_notEnd notEnd, areGaps⟩

/-- What is left of the source is the next gap, what the next token covers, and what is left
behind it. -/
theorem rest_eq_append : cursor.rest = between source cursor.offset cursor.next.1.start ++
    cursor.next.1.slice source ++ cursor.next.2.rest := by
  have here : source.toList.drop cursor.next.1.start = cursor.skipTrivia.rest :=
    next_token_start cursor ▸ stands.skipTrivia
  have behind : (source.toList.drop cursor.next.1.start).drop cursor.next.1.length =
      cursor.next.2.rest := by
    rw [List.drop_drop, ← stands.next, ← next_token_stop, Token.stop]
  rw [List.append_assoc, Token.slice, ← behind, List.take_append_drop, here]
  exact stands.rest_eq_between.1

theorem tokens_whole : (List.zipWith (· ++ ·) (gaps source cursor.offset cursor.tokens)
    (cursor.tokens.map (Token.slice source))).flatten = cursor.rest := by
  induction cursor using scan_induction with
  | ends cursor isEnd =>
    have nothing : cursor.next.2.rest = [] := by
      rw [next_of_nil (left_of_isEnd isEnd)]
      exact left_of_isEnd isEnd
    rw [tokens_of_isEnd isEnd, stands.rest_eq_append, nothing]
    simp [gaps]
  | goesOn cursor notEnd ih =>
    rw [tokens_of_notEnd notEnd, gaps, next_token_stop, List.map_cons, List.zipWith_cons_cons,
      List.flatten_cons, ih stands.next]
    exact stands.rest_eq_append.symm

end StandsIn

end Cursor

/-- Tokens tile their source: the end of input stands at its end, each other token covers a
character at least, they stand apart, and in the gaps there is only white space and comments. -/
theorem tokenize_tiles (source : String) : Tiling source (tokenize source) := by
  have stands : (Cursor.start source).StandsIn source.toList := rfl
  obtain ⟨words, last, split, others, isEnd⟩ := (stream_tokenize source).exists_concat
  have among : last ∈ tokenize source := by simp [split]
  have isWord : ∀ token ∈ words, ¬ token.isEnd ∧ 0 < token.length := by
    intro token inside
    have amongAll : token ∈ tokenize source := by simp [split, inside]
    exact ⟨others token inside, length_pos amongAll (others token inside)⟩
  exact {
    ends := ⟨words, last, split, isWord, isEnd, place_of_isEnd among isEnd⟩
    apart := Cursor.tokens_apart _
    inside := fun _ => stop_le_length
    lexeme := fun _ => lexeme_eq_slice
    gaps := stands.tokens_gaps
    whole := stands.tokens_whole }

end ScriptFront
