import ScriptFront.Proofs.Parse.Alike

/-!
# Parses of tokens that were moved

A parse looks at the kinds and the lexemes of tokens and never at where they stand. So from tokens
that were moved it reads the same statements, and reports the same issues about the moved tokens, on
top of the issues from before (`Moved.run`). Those issues are never looked at. Nor is what was
consumed before: the token consumed last matters to recovery only, and by then it is one of those
that were moved.
-/
namespace ScriptFront

/-- A change of tokens that spares what a parse looks at. -/
structure Displacement where
  move : Token → Token
  word : ∀ token, (move token).word = token.word

namespace Displacement

variable (displacement : Displacement) (token : Token)

theorem kind : (displacement.move token).kind = token.kind :=
  congrArg Prod.fst (displacement.word token)

theorem lexeme : (displacement.move token).lexeme = token.lexeme :=
  congrArg Prod.snd (displacement.word token)

theorem isError : (displacement.move token).isError = token.isError := by
  rw [Token.isError, Token.isError, kind]

theorem isEnd : (displacement.move token).isEnd = token.isEnd := by
  rw [Token.isEnd, Token.isEnd, kind]

/-- The issue about the moved token. -/
def issue (issue : Issue) : Issue := { issue with token := displacement.move issue.token }

end Displacement

open ParseState

variable {displacement : Displacement} {earlier : List Issue} {s t : ParseState}

theorem withoutErrors_move (displacement : Displacement) (tokens : List Token) :
    withoutErrors (tokens.map displacement.move) =
      (withoutErrors tokens).map displacement.move := by
  have kept : (fun token => !token.isError) ∘ displacement.move = fun token => !token.isError := by
    funext token
    rw [Function.comp_apply, displacement.isError]
  rw [withoutErrors, withoutErrors, List.filter_map, kept]

/-- What the one parse has reported, the other has reported of the moved tokens, on top of earlier
issues. -/
structure Retold (displacement : Displacement) (earlier : List Issue) (s t : ParseState) :
    Prop where
  alarmed : t.alarmed = s.alarmed
  nesting : t.nesting = s.nesting
  issues : t.issues = s.issues.map displacement.issue ++ earlier

/-- The two parses are also in front of the same tokens. -/
structure Moved (displacement : Displacement) (earlier : List Issue) (s t : ParseState) : Prop
    extends Retold displacement earlier s t where
  proper : s.Proper
  current : t.current = displacement.move s.current
  unread : t.unread = s.unread.map displacement.move

/-- And they have consumed the same token last. -/
structure MovedPast (displacement : Displacement) (earlier : List Issue) (s t : ParseState) : Prop
    extends Moved displacement earlier s t where
  previous : t.previous = displacement.move s.previous

theorem Retold.report (retold : Retold displacement earlier s t) (message : String)
    (token : Token) :
    Retold displacement earlier (s.report message token)
      (t.report message (displacement.move token)) := by
  unfold ParseState.report
  rw [retold.alarmed]
  split
  · exact retold
  · refine ⟨rfl, retold.nesting, ?_⟩
    rw [retold.issues]
    rfl

/-- Where the two parses were before does not matter to what they pull. -/
theorem Retold.pull (retold : Retold displacement earlier s t) {tokens : List Token}
    (stream : Stream tokens) :
    Moved displacement earlier (s.pull tokens) (t.pull (tokens.map displacement.move)) := by
  induction stream generalizing s t with
  | @ends token isEnd =>
    have notError := Token.not_isError_of_isEnd isEnd
    have proper := proper_pull s (.ends isEnd)
    refine ⟨⟨?_, ?_, ?_⟩, proper, ?_, ?_⟩ <;>
      simp [ParseState.pull, displacement.isError, displacement.isEnd, notError, isEnd,
        retold.alarmed, retold.nesting, retold.issues]
  | @goesOn token rest notEnd spelled more ih =>
    have proper := proper_pull s (.goesOn notEnd spelled more)
    have noted : Retold displacement earlier { s with steps := .pulled token :: s.steps }
        { t with steps := .pulled (displacement.move token) :: t.steps } :=
      ⟨retold.alarmed, retold.nesting, retold.issues⟩
    by_cases isError : token.isError
    · have onward := ih (noted.report token.lexeme token)
      rw [List.map_cons, ParseState.pull, ParseState.pull]
      dsimp only
      rw [displacement.isError, displacement.lexeme, if_pos isError, if_pos isError]
      exact onward
    · refine ⟨⟨?_, ?_, ?_⟩, proper, ?_, ?_⟩ <;>
        simp [ParseState.pull, displacement.isError, displacement.isEnd, isError, notEnd,
          retold.alarmed, retold.nesting, retold.issues]

namespace Moved

theorem kind (moved : Moved displacement earlier s t) : s.current.kind = t.current.kind := by
  rw [moved.current, displacement.kind]

theorem isEnd (moved : Moved displacement earlier s t) : s.current.isEnd = t.current.isEnd := by
  rw [Token.isEnd, Token.isEnd, moved.kind]

/-- What is still to be read is the same, moved. -/
theorem ahead (moved : Moved displacement earlier s t) :
    t.ahead = s.ahead.map displacement.move := by
  rw [ParseState.ahead, ParseState.ahead, ← moved.isEnd, moved.current, moved.unread,
    withoutErrors_move]
  split <;> rfl

theorem congr {s' t' : ParseState} (left : SameView s s') (right : SameView t t')
    (retold : Retold displacement earlier s' t') (moved : Moved displacement earlier s t) :
    Moved displacement earlier s' t' := by
  refine ⟨retold, left.proper moved.proper, ?_, ?_⟩
  · rw [left.current, right.current, moved.current]
  · rw [left.unread, right.unread, moved.unread]

theorem complain (moved : Moved displacement earlier s t) (diagnostic : Diagnostic)
    (token : Token) :
    Moved displacement earlier (s.complain diagnostic token)
      (t.complain diagnostic (displacement.move token)) :=
  moved.congr (.complain ..) (.complain ..) (moved.report diagnostic.message token)

theorem consume (moved : Moved displacement earlier s t) :
    MovedPast displacement earlier s.consume t.consume := by
  have pulled := moved.pull moved.proper.stream
  rw [← moved.unread] at pulled
  exact ⟨pulled, by rw [consume_previous, consume_previous, moved.current]⟩

end Moved

theorem simulation_moved (displacement : Displacement) (earlier : List Issue) :
    Simulation (Moved displacement earlier) where
  kind moved := moved.kind
  lexeme moved := by rw [moved.current, displacement.lexeme]
  nesting moved := moved.nesting.symm
  consume moved _ := moved.consume.toMoved
  complain moved diagnostic _ := moved.current ▸ moved.complain diagnostic _
  complainConsumed moved _ _ := moved.current ▸ moved.consume.toMoved.complain .invalidNumber _
  nest moved nesting :=
    ⟨⟨moved.alarmed, rfl, moved.issues⟩, moved.proper.nest nesting, moved.current, moved.unread⟩

namespace Moved

theorem expect (moved : Moved displacement earlier s t) (kind : Kind) (diagnostic : Diagnostic) :
    MovedPast displacement earlier (s.expect kind diagnostic) (t.expect kind diagnostic) := by
  have consumed := moved.consume
  have sameKind : s.consume.previous.kind = t.consume.previous.kind := by
    rw [consumed.previous, displacement.kind]
  unfold ParseState.expect
  dsimp only
  rw [← sameKind]
  split
  · exact consumed
  · rw [consumed.previous]
    exact ⟨consumed.toMoved.complain diagnostic _, by simp [moved.current]⟩

theorem terminated (moved : Moved displacement earlier s t) (diagnostic : Diagnostic) :
    (s.terminated diagnostic).1 = (t.terminated diagnostic).1 ∧
      MovedPast displacement earlier (s.terminated diagnostic).2 (t.terminated diagnostic).2 := by
  obtain ⟨same, next⟩ := (simulation_moved displacement earlier).expression moved
  exact ⟨same, next.expect _ _⟩

theorem statement (moved : Moved displacement earlier s t) :
    s.statement.1 = t.statement.1 ∧
      MovedPast displacement earlier s.statement.2 t.statement.2 := by
  rw [statement_eq s, statement_eq t, ← moved.kind]
  split
  next =>
    obtain ⟨same, next⟩ := moved.consume.terminated .expectedSemicolonAfterValue
    exact ⟨congrArg Statement.print same, next⟩
  next =>
    obtain ⟨same, next⟩ := moved.terminated .expectedSemicolonAfterExpression
    exact ⟨congrArg Statement.evaluate same, next⟩

end Moved

namespace MovedPast

theorem lowered (past : MovedPast displacement earlier s t) :
    MovedPast displacement earlier s.lowered t.lowered :=
  ⟨past.toMoved.congr (.lowered s) (.lowered t) ⟨rfl, past.nesting, past.issues⟩, past.previous⟩

theorem skip (past : MovedPast displacement earlier s t) :
    Moved displacement earlier s.skipToBoundary t.skipToBoundary := by
  have previousKind {s t : ParseState} (past : MovedPast displacement earlier s t) :
      t.previous.kind = s.previous.kind := by
    rw [past.previous, displacement.kind]
  fun_induction skipToBoundary s generalizing t with
  | case1 s isEnd =>
    rw [skip_of_isEnd (past.isEnd ▸ isEnd)]
    exact past.toMoved
  | case2 s _ behind =>
    rw [skip_of_previous ((previousKind past).trans behind)]
    exact past.toMoved
  | case3 s _ _ starts =>
    rw [skip_of_startsStatement (past.kind ▸ starts)]
    exact past.toMoved
  | case4 s notEnd notBehind notStart ih =>
    have notBehind' : t.previous.kind ≠ .mark .semicolon := by
      rw [previousKind past]
      exact notBehind
    rw [skip_of_none (past.isEnd ▸ notEnd) notBehind' (past.kind ▸ notStart)]
    exact ih past.consume

theorem settle (past : MovedPast displacement earlier s t) :
    Moved displacement earlier s.settle t.settle := by
  unfold ParseState.settle
  rw [past.alarmed]
  split
  · exact past.lowered.skip
  · exact past.toMoved

end MovedPast

/-- From the same tokens, moved, the same statements are read. -/
theorem Moved.run (moved : Moved displacement earlier s t) :
    s.trees = t.trees ∧ Moved displacement earlier s.finish t.finish := by
  fun_induction ParseState.finish s generalizing t with
  | case1 s isEnd =>
    have isEnd' : t.current.isEnd := moved.isEnd ▸ isEnd
    rw [trees_of_isEnd isEnd, trees_of_isEnd isEnd', finish_of_isEnd isEnd']
    exact ⟨rfl, moved⟩
  | case2 s notEnd ih =>
    have notEnd' : ¬ t.current.isEnd := moved.isEnd ▸ notEnd
    obtain ⟨same, past⟩ := moved.statement
    obtain ⟨rest, finish⟩ := ih past.settle
    rw [trees_of_notEnd notEnd, trees_of_notEnd notEnd', finish_of_notEnd notEnd', same, rest]
    exact ⟨rfl, finish⟩

end ScriptFront
