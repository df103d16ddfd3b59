import ScriptFront.Proofs.Parse.Nesting
import ScriptFront.Proofs.Parse.Report

/-!
# Parses that look the same

The tree of a parse depends on the words ahead only: not on where the tokens stand, not on error
tokens between them and not on the alarm (`trees_congr`). More than that, two parses read the same
statements as long as they have the same words ahead. Where they part behind a semicolon, both go on
in front of a statement (`trees_alike`).
-/
namespace ScriptFront

/-- What a token says, wherever it stands. -/
abbrev Word := Kind × String

def Token.word (token : Token) : Word := (token.kind, token.lexeme)

/-- What the tokens that are no errors say. -/
def wordsOf (tokens : List Token) : List Word := (withoutErrors tokens).map Token.word

namespace ParseState

/-- The words that are still to be read. -/
def words (state : ParseState) : List Word := state.ahead.map Token.word

theorem words_eq_cons (state : ParseState) : ∃ rest, state.words = state.current.word :: rest := by
  obtain ⟨rest, ahead⟩ := ahead_eq_cons state
  exact ⟨rest.map Token.word, by rw [words, ahead, List.map_cons]⟩

theorem Proper.words_of_notEnd {state : ParseState} (proper : state.Proper)
    (notEnd : ¬ state.current.isEnd) : state.words = state.current.word :: state.consume.words := by
  rw [words, proper.ahead_of_notEnd notEnd, List.map_cons]
  rfl

theorem words_of_isEnd {state : ParseState} (isEnd : state.current.isEnd) :
    state.words = [state.current.word] := by
  rw [words, ahead, if_pos isEnd]
  rfl

end ParseState

/-- The same words up to one that ends every expression. After that there are these. -/
inductive Shared (q r : List Word) : List Word → List Word → Prop where
  | last (word : Word) (closes : word.1 = .endOfInput ∨ word.1 = .mark .semicolon) :
      Shared q r (word :: q) (word :: r)
  | goesOn (word : Word) {left right : List Word} (rest : Shared q r left right) :
      Shared q r (word :: left) (word :: right)

structure Alike (q r : List Word) (s t : ParseState) : Prop where
  properLeft : s.Proper
  properRight : t.Proper
  nesting : s.nesting = t.nesting
  shared : Shared q r s.words t.words

/-- Just behind a semicolon, with these words ahead. -/
structure Behind (words : List Word) (state : ParseState) : Prop where
  proper : state.Proper
  ahead : state.words = words
  previous : state.previous.kind = .mark .semicolon

/-- Two parses that have consumed the same token: still alike, or just where they part. -/
inductive Onward (q r : List Word) (s t : ParseState) : Prop where
  | alike (alike : Alike q r s t) (previous : s.previous.kind = t.previous.kind)
  | parted (left : Behind q s) (right : Behind r t)

theorem Token.closes_iff {token : Token} :
    token.closes ↔ token.kind = .endOfInput ∨ token.kind = .mark .semicolon := by
  simp [closes, isEnd]

/-- Whether nothing that a parse looks at has changed. -/
structure SameView (before after : ParseState) : Prop where
  previous : after.previous = before.previous
  current : after.current = before.current
  unread : after.unread = before.unread
  nesting : after.nesting = before.nesting

namespace SameView

open ParseState

variable {before after : ParseState}

theorem refl (state : ParseState) : SameView state state := ⟨rfl, rfl, rfl, rfl⟩

theorem symm (view : SameView before after) : SameView after before :=
  ⟨view.previous.symm, view.current.symm, view.unread.symm, view.nesting.symm⟩

theorem complain (state : ParseState) (diagnostic : Diagnostic) (token : Token) :
    SameView state (state.complain diagnostic token) :=
  ⟨complain_previous .., complain_current .., complain_unread .., complain_nesting ..⟩

theorem lowered (state : ParseState) : SameView state state.lowered := ⟨rfl, rfl, rfl, rfl⟩

theorem proper (view : SameView before after) (proper : before.Proper) : after.Proper :=
  proper.congr view.current view.unread

theorem words (view : SameView before after) : after.words = before.words := by
  rw [ParseState.words, ParseState.words, ahead, ahead, view.current, view.unread]

end SameView

section Alike

open ParseState

variable {q r : List Word} {s t s' t' : ParseState}

theorem Shared.head {left right : List Word} (shared : Shared q r left right) :
    left.head? = right.head? := by
  cases shared with
  | last => rfl
  | goesOn => rfl

theorem Alike.word (alike : Alike q r s t) : s.current.word = t.current.word := by
  have heads := alike.shared.head
  obtain ⟨_, left⟩ := words_eq_cons s
  obtain ⟨_, right⟩ := words_eq_cons t
  simpa [left, right] using heads

theorem Alike.kind (alike : Alike q r s t) : s.current.kind = t.current.kind :=
  congrArg Prod.fst alike.word

theorem Alike.isEnd (alike : Alike q r s t) : s.current.isEnd = t.current.isEnd := by
  rw [Token.isEnd, Token.isEnd, alike.kind]

theorem Alike.congr (left : SameView s s') (right : SameView t t') (alike : Alike q r s t) :
    Alike q r s' t' := by
  refine ⟨left.proper alike.properLeft, right.proper alike.properRight, ?_, ?_⟩
  · rw [left.nesting, right.nesting, alike.nesting]
  · rw [left.words, right.words]
    exact alike.shared

theorem Behind.congr {words : List Word} (view : SameView s s') (behind : Behind words s) :
    Behind words s' :=
  ⟨view.proper behind.proper, view.words.trans behind.ahead, by rw [view.previous, behind.previous]⟩

theorem Onward.congr (left : SameView s s') (right : SameView t t') (onward : Onward q r s t) :
    Onward q r s' t' := by
  cases onward with
  | alike alike previous =>
    exact .alike (alike.congr left right) (by rw [left.previous, right.previous, previous])
  | parted behind behind' => exact .parted (behind.congr left) (behind'.congr right)

theorem Alike.consume (alike : Alike q r s t) : Onward q r s.consume t.consume := by
  have nesting : s.consume.nesting = t.consume.nesting := by
    rw [consume_nesting, consume_nesting, alike.nesting]
  have previous : s.consume.previous.kind = t.consume.previous.kind := by
    rw [consume_previous, consume_previous, alike.kind]
  have proper := alike.properLeft.consume
  have proper' := alike.properRight.consume
  have shared := alike.shared
  by_cases isEnd : s.current.isEnd
  · have isEnd' : t.current.isEnd := alike.isEnd ▸ isEnd
    refine .alike ⟨proper, proper', nesting, ?_⟩ previous
    rw [words, words, alike.properLeft.ahead_of_isEnd isEnd,
      alike.properRight.ahead_of_isEnd isEnd']
    exact shared
  · have notEnd' : ¬ t.current.isEnd := alike.isEnd ▸ isEnd
    rw [alike.properLeft.words_of_notEnd isEnd, alike.properRight.words_of_notEnd notEnd',
      alike.word] at shared
    generalize left : s.consume.words = ahead, right : t.consume.words = ahead' at shared
    cases shared with
    | last _ closes =>
      have kindNotEnd : t.current.kind ≠ .endOfInput := by simpa [Token.isEnd] using notEnd'
      have semicolon : t.current.kind = .mark .semicolon := closes.resolve_left kindNotEnd
      have behind : s.consume.previous.kind = .mark .semicolon := by
        rw [previous, consume_previous, semicolon]
      exact .parted ⟨proper, left, behind⟩ ⟨proper', right, previous ▸ behind⟩
    | goesOn _ rest =>
      exact .alike ⟨proper, proper', nesting, by rw [left, right]; exact rest⟩ previous

/-- Tokens inside of an expression are consumed on both sides. -/
theorem Alike.consume_of_not_closes (alike : Alike q r s t) (inside : ¬ s.current.closes) :
    Alike q r s.consume t.consume := by
  cases alike.consume with
  | alike next => exact next
  | parted left =>
    have semicolon := left.previous
    rw [consume_previous] at semicolon
    exact absurd (Token.closes_iff.mpr (.inr semicolon)) inside

theorem simulation_alike (q r : List Word) : Simulation (Alike q r) where
  kind alike := alike.kind
  lexeme alike := congrArg Prod.snd alike.word
  nesting alike := alike.nesting
  consume alike inside := alike.consume_of_not_closes inside
  complain alike _ _ := alike.congr (.complain ..) (.complain ..)
  complainConsumed alike kind _ := by
    have inside := alike.consume_of_not_closes (by simp [Token.closes, Token.isEnd, kind])
    exact inside.congr (.complain ..) (.complain ..)
  nest alike _ :=
    ⟨alike.properLeft.nest _, alike.properRight.nest _, rfl, alike.shared⟩

theorem Alike.expect (alike : Alike q r s t) (kind : Kind) (diagnostic : Diagnostic) :
    Onward q r (s.expect kind diagnostic) (t.expect kind diagnostic) := by
  have same : s.consume.previous.kind = t.consume.previous.kind := by
    rw [consume_previous, consume_previous, alike.kind]
  unfold ParseState.expect
  dsimp only
  rw [same]
  split
  · exact alike.consume
  · exact alike.consume.congr (.complain ..) (.complain ..)

theorem Alike.terminated (alike : Alike q r s t) (diagnostic : Diagnostic) :
    (s.terminated diagnostic).1 = (t.terminated diagnostic).1 ∧
      Onward q r (s.terminated diagnostic).2 (t.terminated diagnostic).2 := by
  obtain ⟨same, next⟩ := (simulation_alike q r).expression alike
  exact ⟨same, next.expect _ _⟩

theorem Alike.statement (alike : Alike q r s t) :
    s.statement.1 = t.statement.1 ∧ Onward q r s.statement.2 t.statement.2 := by
  rw [statement_eq s, statement_eq t, alike.kind]
  split
  next isWord =>
    have inside : ¬ s.current.closes := by
      rw [Token.closes_iff, alike.kind, isWord]
      simp
    obtain ⟨same, onward⟩ :=
      (alike.consume_of_not_closes inside).terminated .expectedSemicolonAfterValue
    exact ⟨congrArg Statement.print same, onward⟩
  next =>
    obtain ⟨same, onward⟩ := alike.terminated .expectedSemicolonAfterExpression
    exact ⟨congrArg Statement.evaluate same, onward⟩

theorem skip_of_isEnd (isEnd : s.current.isEnd) : s.skipToBoundary = s := by
  rw [skipToBoundary, if_pos isEnd]

theorem skip_of_previous (previous : s.previous.kind = .mark .semicolon) :
    s.skipToBoundary = s := by
  rw [skipToBoundary, if_pos previous, ite_self]

theorem skip_of_startsStatement (starts : s.current.kind.startsStatement) :
    s.skipToBoundary = s := by
  rw [skipToBoundary, if_pos starts, ite_self, ite_self]

theorem skip_of_none (notEnd : ¬ s.current.isEnd) (notBehind : s.previous.kind ≠ .mark .semicolon)
    (notStart : ¬ s.current.kind.startsStatement) :
    s.skipToBoundary = s.consume.skipToBoundary := by
  rw [skipToBoundary, if_neg notEnd, if_neg notBehind, if_neg notStart]

theorem Alike.skip (alike : Alike q r s t) (previous : s.previous.kind = t.previous.kind) :
    Onward q r s.skipToBoundary t.skipToBoundary := by
  fun_induction skipToBoundary s generalizing t with
  | case1 s isEnd =>
    rw [skip_of_isEnd (alike.isEnd ▸ isEnd)]
    exact .alike alike previous
  | case2 s _ behind =>
    rw [skip_of_previous (previous ▸ behind)]
    exact .alike alike previous
  | case3 s _ _ starts =>
    rw [skip_of_startsStatement (alike.kind ▸ starts)]
    exact .alike alike previous
  | case4 s notEnd notBehind notStart ih =>
    have skipped : t.skipToBoundary = t.consume.skipToBoundary :=
      skip_of_none (alike.isEnd ▸ notEnd) (previous ▸ notBehind) (alike.kind ▸ notStart)
    rw [skipped]
    cases alike.consume with
    | alike next same => exact ih next same
    | parted left right =>
      rw [skip_of_previous left.previous, skip_of_previous right.previous]
      exact .parted left right

theorem Onward.skip (onward : Onward q r s t) :
    Onward q r s.skipToBoundary t.skipToBoundary := by
  cases onward with
  | alike alike previous => exact alike.skip previous
  | parted left right =>
    rw [skip_of_previous left.previous, skip_of_previous right.previous]
    exact .parted left right

/-- A statement without an alarm ends with its semicolon. -/
theorem statement_previous (calm : s.statement.2.alarmed = false) :
    s.statement.2.previous.kind = .mark .semicolon := by
  have expected (state : ParseState) (diagnostic : Diagnostic)
      (calm : (state.expect (.mark .semicolon) diagnostic).alarmed = false) :
      (state.expect (.mark .semicolon) diagnostic).previous.kind = .mark .semicolon := by
    unfold ParseState.expect at calm ⊢
    dsimp only at calm ⊢
    split at calm
    next isSemicolon => rwa [if_pos isSemicolon]
    next => simp [complain, report_alarmed] at calm
  rw [statement_eq] at calm ⊢
  split
  next isWord =>
    rw [if_pos isWord] at calm
    exact expected _ _ calm
  next notWord =>
    rw [if_neg notWord] at calm
    exact expected _ _ calm

/-- Recovery where nothing was reported would stay where it is. So it does not matter to the tree
whether there is one. -/
theorem settle_view (calm : s.alarmed = false → s.previous.kind = .mark .semicolon) :
    SameView s.lowered.skipToBoundary s.settle := by
  unfold settle
  split
  next => exact .refl _
  next notAlarmed =>
    have behind := calm (by simpa using notAlarmed)
    have stays : s.lowered.skipToBoundary = s.lowered := skip_of_previous behind
    rw [stays]
    exact (SameView.lowered s).symm

theorem Onward.settle (onward : Onward q r s.statement.2 t.statement.2) :
    Onward q r s.statement.2.settle t.statement.2.settle :=
  (onward.congr (.lowered _) (.lowered _)).skip.congr (settle_view statement_previous)
    (settle_view statement_previous)

/-- What comes of two parses that look the same: they end together, or part in front of a statement
after having read the same ones. -/
inductive Course (q r : List Word) (s t : ParseState) : Prop where
  | together (nothing : q = []) (same : s.trees = t.trees)
  | apart (first : List Statement) {s' t' : ParseState} (left : Behind q s') (right : Behind r t')
      (flat : s'.nesting = 0 ∧ t'.nesting = 0) (trees : s.trees = first ++ s'.trees)
      (trees' : t.trees = first ++ t'.trees)

theorem trees_of_isEnd (isEnd : s.current.isEnd) : s.trees = [] := by
  rw [trees, heads_of_isEnd isEnd, List.map_nil]

theorem trees_of_notEnd (notEnd : ¬ s.current.isEnd) :
    s.trees = s.statement.1 :: s.statement.2.settle.trees := by
  rw [trees, heads_of_notEnd notEnd, List.map_cons, trees]

theorem Alike.nothing_of_isEnd (alike : Alike q r s t) (isEnd : s.current.isEnd) : q = [] := by
  have shared := alike.shared
  rw [words_of_isEnd isEnd] at shared
  generalize t.words = ahead at shared
  cases shared with
  | last => rfl
  | goesOn _ rest => cases rest

theorem trees_alike (alike : Alike q r s t) (flat : s.nesting = 0) : Course q r s t := by
  fun_induction heads s generalizing t with
  | case1 s isEnd =>
    refine .together (alike.nothing_of_isEnd isEnd) ?_
    rw [trees_of_isEnd isEnd, trees_of_isEnd (alike.isEnd ▸ isEnd)]
  | case2 s notEnd ih =>
    have notEnd' : ¬ t.current.isEnd := alike.isEnd ▸ notEnd
    have flatAfter := (settled_nesting s).trans flat
    have flatAfter' := (settled_nesting t).trans (alike.nesting.symm.trans flat)
    obtain ⟨same, onward⟩ := alike.statement
    have trees := trees_of_notEnd notEnd
    have trees' := trees_of_notEnd notEnd'
    rw [← same] at trees'
    cases onward.settle with
    | alike next _ =>
      cases ih next flatAfter with
      | together nothing rest => exact .together nothing (by rw [trees, trees', rest])
      | apart first left right flats rest rest' =>
        exact .apart (s.statement.1 :: first) left right flats (by rw [trees, rest]; rfl)
          (by rw [trees', rest']; rfl)
    | parted left right =>
      exact .apart [s.statement.1] left right ⟨flatAfter, flatAfter'⟩ trees trees'

end Alike

open ParseState

theorem Stream.shared {tokens : List Token} (stream : Stream tokens) :
    Shared [] [] (wordsOf tokens) (wordsOf tokens) := by
  induction stream with
  | @ends token isEnd =>
    have closes : token.kind = .endOfInput := by simpa [Token.isEnd] using isEnd
    rw [wordsOf, withoutErrors_cons (Token.not_isError_of_isEnd isEnd)]
    exact .last token.word (.inl closes)
  | @goesOn token rest _ _ _ ih =>
    by_cases isError : token.isError
    · rw [wordsOf, withoutErrors_cons_of_isError isError]
      exact ih
    · rw [wordsOf, withoutErrors_cons isError]
      exact .goesOn _ ih

theorem ParseState.Proper.shared {state : ParseState} (proper : state.Proper) :
    Shared [] [] state.words state.words := by
  by_cases isEnd : state.current.isEnd
  · have closes : state.current.kind = .endOfInput := by simpa [Token.isEnd] using isEnd
    rw [words_of_isEnd isEnd]
    exact .last state.current.word (.inl closes)
  · rw [words, ahead, if_neg isEnd]
    exact .goesOn _ proper.stream.shared

theorem words_ne_nil (state : ParseState) : state.words ≠ [] := by
  obtain ⟨rest, split⟩ := words_eq_cons state
  simp [split]

/-- The tree depends on the words ahead only. -/
theorem trees_congr {s t : ParseState} (proper : s.Proper) (proper' : t.Proper)
    (flat : s.nesting = 0) (flat' : t.nesting = 0) (same : s.words = t.words) :
    s.trees = t.trees := by
  have alike : Alike [] [] s t := ⟨proper, proper', flat.trans flat'.symm, same ▸ proper.shared⟩
  cases trees_alike alike flat with
  | together _ trees => exact trees
  | apart _ left => exact absurd left.ahead (words_ne_nil _)

end ScriptFront
