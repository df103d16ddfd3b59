import ScriptFront.Proofs.Text.LineMap
import ScriptFront.Proofs.Token.Layout

/-!
# Where tokens stand

A scan counts lines as it goes, over white space and comments and inside of strings, while a line
map looks a position up in the table of line starts. They agree: a token is on the line of the
position after it (`tokenize_lines`). What carries this along a scan is that a cursor knows how many
characters and lines there are in all (`Cursor.Placed`).
-/
namespace ScriptFront

namespace Cursor

/-- Whether the cursor stands in the text where it says, with as much behind it as it says. -/
structure Placed (text : List Char) (cursor : Cursor) : Prop where
  stands : cursor.StandsIn text
  stop : cursor.stop = text.length
  lastLine : cursor.lastLine = 1 + text.count '\n'

theorem placed_start (source : String) : (start source).Placed source.toList :=
  ⟨rfl, Nat.zero_add _, rfl⟩

/-- A token ends where the scan goes on. -/
theorem next_token_stop (cursor : Cursor) : cursor.next.1.stop = cursor.next.2.offset := by
  cases left : cursor.skipTrivia.rest with
  | nil => rw [next_of_nil left, Token.stop, Nat.add_zero]
  | cons first rest => rw [next_of_cons left, Token.stop]

namespace Placed

variable {text : List Char} {cursor : Cursor}

theorem next (placed : cursor.Placed text) : cursor.next.2.Placed text where
  stands := placed.stands.next
  stop := (next_stop cursor).trans placed.stop
  lastLine := (next_lastLine cursor).trans placed.lastLine

theorem offset_le (placed : cursor.Placed text) : cursor.offset ≤ text.length := by
  have whole := placed.stop
  rw [Cursor.stop] at whole
  omega

theorem line_eq (placed : cursor.Placed text) :
    cursor.line = 1 + (text.take cursor.offset).count '\n' := by
  have split := congrArg (List.count '\n') (List.take_append_drop cursor.offset text)
  rw [List.count_append, placed.stands] at split
  have whole := placed.lastLine
  rw [Cursor.lastLine] at whole
  omega

end Placed

end Cursor

open Cursor

section Tokens

variable {source : String} {token : Token} (among : token ∈ tokenize source)

include among

/-- Every token is scanned from a cursor that stands in the source. -/
theorem exists_placed : ∃ cursor : Cursor, cursor.Placed source.toList ∧ token = cursor.next.1 :=
  exists_of_mem_tokens Placed.next (placed_start source) among

theorem stop_le_length : token.stop ≤ source.toList.length := by
  obtain ⟨cursor, placed, rfl⟩ := exists_placed among
  rw [next_token_stop]
  exact placed.next.offset_le

/-- A token is on the line after as many line feeds as stand before its end. -/
theorem line_eq_count : token.line = 1 + (source.toList.take token.stop).count '\n' := by
  obtain ⟨cursor, placed, rfl⟩ := exists_placed among
  rw [(next_line cursor).2, next_token_stop]
  exact placed.next.line_eq

/-- The end of input stands behind the last character and covers none. -/
theorem place_of_isEnd (isEnd : token.isEnd) :
    token.start = source.toList.length ∧ token.length = 0 := by
  have inside := stop_le_length among
  obtain ⟨cursor, placed, rfl⟩ := exists_placed among
  have left := left_of_isEnd isEnd
  have nothing : source.toList.drop cursor.skipTrivia.offset = [] :=
    placed.stands.skipTrivia.trans left
  have behind := List.drop_eq_nil_iff.mp nothing
  rw [next_of_nil left] at inside ⊢
  exact ⟨Nat.le_antisymm inside behind, rfl⟩

/-- Any other token covers a character at least. -/
theorem length_pos (notEnd : ¬ token.isEnd) : 0 < token.length := by
  obtain ⟨cursor, -, rfl⟩ := exists_placed among
  have longer := next_offset cursor notEnd
  rw [← next_token_stop, Token.stop] at longer
  omega

/-- Only an error token has another lexeme than the text that it covers. -/
theorem lexeme_eq_slice (notError : ¬ token.isError) :
    token.lexeme.toList = token.slice source := by
  obtain ⟨cursor, placed, rfl⟩ := exists_placed among
  cases left : cursor.skipTrivia.rest with
  | nil => simp [next_of_nil left, Token.slice]
  | cons first rest =>
    rw [slice_next placed.stands left]
    rw [next_of_cons left] at notError ⊢
    cases found : (Front.ofChars first rest).found with
    | ok kind => simp [Front.lexeme, found]
    | error fault => simp [Token.isError, Front.kind, found] at notError

end Tokens

/-- The scan and the line map agree about lines: a token is on the line of the position after it,
which is the line after as many line feeds as stand before that position. So the lines of tokens
never fall, and the end of input is on the last line. -/
theorem tokenize_lines (source : String) :
    let map := LineMap.ofText source
    (∀ token ∈ tokenize source, token.line = map.lineOf token.stop ∧
      token.line = 1 + (source.toList.take token.stop).count '\n') ∧
      (tokenize source).Pairwise (·.line ≤ ·.line) ∧
      ∀ token ∈ tokenize source, token.isEnd → token.line = map.lineCount := by
  intro map
  refine ⟨fun token among => ?_, (tokens_lines (start source)).1, fun token among isEnd => ?_⟩
  · rw [LineMap.lineOf_eq]
    exact ⟨line_eq_count among, line_eq_count among⟩
  · obtain ⟨start, length⟩ := place_of_isEnd among isEnd
    have stop : token.stop = source.toList.length := by rw [Token.stop, start, length, Nat.add_zero]
    rw [line_eq_count among, stop, List.take_length, LineMap.lineCount_eq]

end ScriptFront
