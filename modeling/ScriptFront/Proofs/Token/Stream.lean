import Mathlib.Data.List.TakeWhile
import ScriptFront.Proofs.Number.Literal
import ScriptFront.Token.Scan

/-!
# Token streams

What a scan hands to a parse is a stream: literals are spelled as literals, and the end of input
stands at the end and nowhere else. `stream_tokenize` says so of every source. Each token starts
after the ones before it, so no token is met twice (`nodup_tokenize`).
-/
namespace ScriptFront

/-- Numbers are spelled so that they can be read, strings with their quotes. -/
structure Token.Spelled (token : Token) : Prop where
  number : token.kind = .numericLiteral → ∃ value, literalValue? token.lexeme.toList = some value
  string : token.kind = .stringLiteral →
    ∃ body, token.lexeme.toList = '"' :: (body ++ ['"'])

inductive Stream : List Token → Prop where
  | ends {token : Token} (isEnd : token.isEnd) : Stream [token]
  | goesOn {token : Token} {rest : List Token} (notEnd : ¬ token.isEnd) (spelled : token.Spelled)
      (more : Stream rest) : Stream (token :: rest)

theorem Token.not_isError_of_isEnd {token : Token} (isEnd : token.isEnd) : ¬ token.isError := by
  have kind : token.kind = .endOfInput := by simpa [Token.isEnd] using isEnd
  simp [isError, kind]

theorem Token.spelled_of_kind {token : Token} (notNumber : token.kind ≠ .numericLiteral)
    (notString : token.kind ≠ .stringLiteral) : token.Spelled :=
  ⟨fun number => absurd number notNumber, fun string => absurd string notString⟩

theorem Token.spelled_of_isEnd {token : Token} (isEnd : token.isEnd) : token.Spelled := by
  have kind : token.kind = .endOfInput := by simpa [Token.isEnd] using isEnd
  exact spelled_of_kind (by simp [kind]) (by simp [kind])

theorem Stream.ne_nil {tokens : List Token} (stream : Stream tokens) : tokens ≠ [] := by
  cases stream <;> simp

/-- What a scan guarantees of a token that others follow. -/
def Token.Inner (token : Token) : Prop := ¬ token.isEnd ∧ token.Spelled

theorem Stream.inner {before after : List Token} (stream : Stream (before ++ after))
    (some : after ≠ []) : ∀ token ∈ before, token.Inner := by
  induction before with
  | nil => simp
  | cons token before ih =>
    have someLeft : before ++ after ≠ [] := by simp [some]
    generalize rest : before ++ after = tokens at ih someLeft
    rw [List.cons_append, rest] at stream
    cases stream with
    | ends => contradiction
    | goesOn notEnd spelled more =>
      intro other among
      rcases List.mem_cons.mp among with rfl | inside
      · exact ⟨notEnd, spelled⟩
      · exact ih more other inside

theorem Stream.append {before after : List Token} (inner : ∀ token ∈ before, token.Inner)
    (stream : Stream after) : Stream (before ++ after) := by
  induction before with
  | nil => exact stream
  | cons token before ih =>
    obtain ⟨notEnd, spelled⟩ := inner token List.mem_cons_self
    exact .goesOn notEnd spelled (ih fun other among => inner other (List.mem_cons_of_mem _ among))

/-- A stream is its words and then the end of input. -/
theorem Stream.exists_concat {tokens : List Token} (stream : Stream tokens) :
    ∃ words last, tokens = words ++ [last] ∧ (∀ token ∈ words, ¬ token.isEnd) ∧ last.isEnd := by
  induction stream with
  | @ends token isEnd => exact ⟨[], token, rfl, by simp, isEnd⟩
  | @goesOn token rest notEnd _ _ ih =>
    obtain ⟨words, last, rfl, others, isEnd⟩ := ih
    exact ⟨token :: words, last, rfl, List.forall_mem_cons.mpr ⟨notEnd, others⟩, isEnd⟩

namespace Front

/-- Which fronts a literal may have. -/
structure Spelled (front : Front) : Prop where
  number : front.kind = .numericLiteral → ∃ value, literalValue? front.lexeme.toList = some value
  string : front.kind = .stringLiteral →
    ∃ body, front.lexeme.toList = '"' :: (body ++ ['"'])
  notEnd : front.kind ≠ .endOfInput

/-- Most fronts are no literals. -/
theorem spelled_of_plain {front : Front} (plain : front.kind ≠ .numericLiteral ∧
    front.kind ≠ .stringLiteral ∧ front.kind ≠ .endOfInput) : front.Spelled :=
  ⟨fun number => absurd number plain.1, fun string => absurd string plain.2.1, plain.2.2⟩

theorem spelled_word (first : Char) (rest : List Char) : (word first rest).Spelled := by
  unfold word
  dsimp only
  cases Keyword.ofText? (String.ofList (first :: rest.takeWhile isWordPart)) with
  | none => exact spelled_of_plain (by simp [kind])
  | some word => exact spelled_of_plain (by simp [kind])

theorem spelled_number {first : Char} (digit : first.isDigit) (rest : List Char) :
    (number first rest).Spelled := by
  have whole : ∀ c ∈ first :: rest.takeWhile Char.isDigit, c.isDigit := by
    simpa [digit] using fun c => List.mem_takeWhile_imp
  have plain : ∃ value, literalValue? _ = some value := ⟨_, literalValue?_whole whole (by simp)⟩
  unfold number
  dsimp only
  split
  next place after _ =>
    split
    next isPlace =>
      have places : ∀ c ∈ place :: after.takeWhile Char.isDigit, c.isDigit := by
        simpa [isPlace] using fun c => List.mem_takeWhile_imp
      have pointed : ∃ value, literalValue? _ = some value :=
        ⟨_, literalValue?_pointed whole (by simp) places (by simp)⟩
      exact ⟨fun _ => by simpa [lexeme] using pointed, by simp [kind], by simp [kind]⟩
    next => exact ⟨fun _ => by simpa [lexeme] using plain, by simp [kind], by simp [kind]⟩
  next => exact ⟨fun _ => by simpa [lexeme] using plain, by simp [kind], by simp [kind]⟩

theorem spelled_quoted (rest : List Char) : (quoted rest).Spelled := by
  unfold quoted
  dsimp only
  split
  next => exact spelled_of_plain (by simp [kind])
  next quote after remains =>
    have closing : quote = '"' := by
      have found := List.head_dropWhile_not (· != '"') (l := rest) (by simp [remains])
      simpa [remains] using found
    exact ⟨by simp [kind], fun _ => ⟨rest.takeWhile (· != '"'), by simp [lexeme, closing]⟩,
      by simp [kind]⟩

theorem spelled_punctuation (first : Char) (rest : List Char) :
    (punctuation first rest).Spelled := by
  have longest := longestMark_punctuation first rest
  generalize punctuation first rest = front at longest
  cases longest <;> exact spelled_of_plain (by simp [kind])

theorem spelled_ofChars (first : Char) (rest : List Char) : (ofChars first rest).Spelled := by
  unfold ofChars
  split
  · exact spelled_word first rest
  split
  next digit => exact spelled_number digit rest
  split
  · exact spelled_quoted rest
  · exact spelled_punctuation first rest

end Front

namespace Cursor

/-- Whether a token is the end of input or something else, its literal is spelled. -/
theorem spelled_next (cursor : Cursor) : cursor.next.1.Spelled := by
  unfold next
  dsimp only
  split
  · exact Token.spelled_of_kind (by simp) (by simp)
  next first rest _ =>
    have front := Front.spelled_ofChars first rest
    exact ⟨front.number, front.string⟩

/-- Induction along a scan, from the cursor behind a token back to the one before it. -/
@[elab_as_elim]
theorem scan_induction {P : Cursor → Prop} (ends : ∀ cursor, cursor.next.1.isEnd → P cursor)
    (goesOn : ∀ cursor, ¬ cursor.next.1.isEnd → P cursor.next.2 → P cursor) (cursor : Cursor) :
    P cursor := by
  induction size : cursor.rest.length using Nat.strongRecOn generalizing cursor with
  | ind _ shorter =>
    by_cases isEnd : cursor.next.1.isEnd
    · exact ends cursor isEnd
    · exact goesOn cursor isEnd (shorter _ (size ▸ next_shorter cursor isEnd) _ rfl)

theorem tokens_of_isEnd {cursor : Cursor} (isEnd : cursor.next.1.isEnd) :
    cursor.tokens = [cursor.next.1] := by
  rw [tokens_eq, if_pos isEnd]

theorem tokens_of_notEnd {cursor : Cursor} (notEnd : ¬ cursor.next.1.isEnd) :
    cursor.tokens = cursor.next.1 :: cursor.next.2.tokens := by
  rw [tokens_eq, if_neg notEnd]

theorem stream_tokens (cursor : Cursor) : Stream cursor.tokens := by
  induction cursor using scan_induction with
  | ends cursor isEnd =>
    rw [tokens_of_isEnd isEnd]
    exact .ends isEnd
  | goesOn cursor notEnd ih =>
    rw [tokens_of_notEnd notEnd]
    exact .goesOn notEnd (spelled_next cursor) ih

theorem pastTrivia_offset (inComment : Bool) (rest : List Char) (offset line : Nat) :
    offset ≤ (pastTrivia inComment rest offset line).offset := by
  fun_induction pastTrivia inComment rest offset line with
  | case1 => exact Nat.le_refl _
  | case2 _ _ _ _ ih => exact Nat.le_of_succ_le ih
  | case3 _ _ _ _ _ _ _ ih => exact Nat.le_of_succ_le ih
  | case4 _ _ _ _ _ _ _ _ ih => exact Nat.le_of_succ_le ih
  | case5 => exact Nat.le_refl _

theorem next_start (cursor : Cursor) : cursor.offset ≤ cursor.next.1.start := by
  have skipped : cursor.offset ≤ cursor.skipTrivia.offset := pastTrivia_offset ..
  unfold next
  dsimp only
  split <;> exact skipped

theorem next_offset (cursor : Cursor) (notEnd : ¬ cursor.next.1.isEnd) :
    cursor.next.1.start < cursor.next.2.offset := by
  unfold next at notEnd ⊢
  dsimp only at notEnd ⊢
  split
  next left => simp [left, Token.isEnd] at notEnd
  next first rest _ =>
    obtain ⟨more, taken⟩ := Front.ofChars_taken first rest
    simp [taken]

/-- What scanning keeps of a cursor holds wherever a token of it is scanned. -/
theorem exists_of_mem_tokens {P : Cursor → Prop}
    (onward : ∀ {cursor : Cursor}, P cursor → P cursor.next.2) {cursor : Cursor} (holds : P cursor)
    {token : Token} (among : token ∈ cursor.tokens) :
    ∃ scanned : Cursor, P scanned ∧ token = scanned.next.1 := by
  induction cursor using scan_induction with
  | ends cursor isEnd =>
    rw [tokens_of_isEnd isEnd, List.mem_singleton] at among
    exact ⟨cursor, holds, among⟩
  | goesOn cursor notEnd ih =>
    rw [tokens_of_notEnd notEnd] at among
    rcases List.mem_cons.mp among with same | later
    · exact ⟨cursor, holds, same⟩
    · exact ih (onward holds) later

/-- How a token stands to those after it follows from how it stands to the cursor after it, if a
cursor stands so to all of its tokens. -/
theorem tokens_pairwise {Before : Token → Token → Prop} (Ahead : Cursor → Token → Prop)
    (here : ∀ cursor : Cursor, Ahead cursor cursor.next.1)
    (onward : ∀ cursor : Cursor, ¬ cursor.next.1.isEnd → ∀ token, Ahead cursor.next.2 token →
      Before cursor.next.1 token ∧ Ahead cursor token) (cursor : Cursor) :
    cursor.tokens.Pairwise Before ∧ ∀ token ∈ cursor.tokens, Ahead cursor token := by
  induction cursor using scan_induction with
  | ends cursor isEnd =>
    rw [tokens_of_isEnd isEnd]
    simpa using here cursor
  | goesOn cursor notEnd ih =>
    obtain ⟨ordered, later⟩ := ih
    rw [tokens_of_notEnd notEnd]
    constructor
    · exact List.pairwise_cons.mpr
        ⟨fun token among => (onward cursor notEnd token (later token among)).1, ordered⟩
    · intro token among
      rcases List.mem_cons.mp among with rfl | behind
      · exact here cursor
      · exact (onward cursor notEnd token (later token behind)).2

theorem tokens_starts (cursor : Cursor) :
    cursor.tokens.Pairwise (·.start < ·.start) ∧
      ∀ token ∈ cursor.tokens, cursor.offset ≤ token.start := by
  refine tokens_pairwise (fun cursor token => cursor.offset ≤ token.start) next_start ?_
    cursor
  intro cursor notEnd token later
  have here := next_start cursor
  have after := next_offset cursor notEnd
  omega

theorem pastTrivia_line (inComment : Bool) (rest : List Char) (offset line : Nat) :
    line ≤ (pastTrivia inComment rest offset line).line := by
  fun_induction pastTrivia inComment rest offset line with
  | case1 => exact Nat.le_refl _
  | case2 _ _ _ _ ih => exact Nat.le_of_succ_le ih
  | case3 _ _ _ _ _ _ _ ih => exact ih
  | case4 _ _ _ _ _ _ _ _ ih => exact ih
  | case5 => exact Nat.le_refl _

/-- A token ends on the line on which the scan goes on. -/
theorem next_line (cursor : Cursor) :
    cursor.line ≤ cursor.next.1.line ∧ cursor.next.1.line = cursor.next.2.line := by
  have skipped : cursor.line ≤ cursor.skipTrivia.line := pastTrivia_line ..
  unfold next
  dsimp only
  split
  · exact ⟨skipped, rfl⟩
  · exact ⟨Nat.le_add_right_of_le skipped, rfl⟩

theorem tokens_lines (cursor : Cursor) :
    cursor.tokens.Pairwise (·.line ≤ ·.line) ∧
      ∀ token ∈ cursor.tokens, cursor.line ≤ token.line := by
  refine tokens_pairwise (fun cursor token => cursor.line ≤ token.line)
    (fun cursor => (next_line cursor).1) ?_ cursor
  intro cursor _ token later
  obtain ⟨here, after⟩ := next_line cursor
  omega

end Cursor

theorem stream_tokenize (source : String) : Stream (tokenize source) := Cursor.stream_tokens _

theorem nodup_tokenize (source : String) : (tokenize source).Nodup := by
  refine (Cursor.tokens_starts _).1.imp fun before same => ?_
  rw [same] at before
  exact Nat.lt_irrefl _ before

end ScriptFront
