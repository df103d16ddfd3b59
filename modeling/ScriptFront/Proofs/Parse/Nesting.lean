import ScriptFront.Proofs.Parse.Run

/-!
# Counting operators

The count of operators in front of an operand goes up and down with the operands. After a statement
it is what it was before, so every statement of a source begins with none (`heads_nesting`).
-/
namespace ScriptFront

namespace ParseState

variable (state : ParseState)

theorem primary_nesting : (Rule.primary state).2.nesting = state.nesting := by
  unfold Rule.primary
  split
  · exact consume_nesting state
  · exact consume_nesting state
  · exact consume_nesting state
  · dsimp only
    split <;> simp
  · exact consume_nesting state
  · exact complain_nesting ..

theorem prefixed_nesting : (Rule.prefixed state).2.nesting = state.nesting := by
  induction size : state.remaining using Nat.strongRecOn generalizing state with
  | ind _ shorter =>
    rcases state.matchOperator_prefix with ⟨none, -⟩ | ⟨operator, taken⟩
    · rw [Rule.prefixed_of_none none]
      exact primary_nesting state
    · have depth : state.consume.nesting = state.nesting := consume_nesting state
      by_cases deep : Rule.nestingLimit ≤ state.consume.nesting
      · rw [Rule.prefixed_of_deep taken deep]
        simp
      · have fewer : (state.consume.nest (state.consume.nesting + 1)).remaining < _ :=
          size ▸ matchOperator_remaining taken
        have inner := shorter _ fewer (state.consume.nest (state.consume.nesting + 1)) rfl
        rw [Rule.prefixed_of_some taken deep]
        change (Rule.prefixed _).2.nesting - 1 = state.nesting
        rw [inner]
        exact depth

theorem chainOnto_nesting (level : Level) {operand : Rule}
    (operands : ∀ state, (operand.run state).2.nesting = state.nesting) (left : Expression) :
    (Rule.chainOnto level operand left state).2.nesting = state.nesting := by
  fun_induction Rule.chainOnto level operand left state with
  | case1 left state next none =>
    obtain ⟨rfl, -⟩ := matchOperator_none (Operator.operators_known level) none
    rfl
  | case2 left state operator next taken right ih =>
    obtain ⟨rfl, -⟩ := matchOperator_next taken
    rw [ih, operands, consume_nesting]

theorem ofLevels_nesting (levels : List Level) :
    ((Rule.ofLevels levels).run state).2.nesting = state.nesting := by
  induction levels generalizing state with
  | nil => exact prefixed_nesting state
  | cons level tighter ih => rw [Rule.ofLevels_cons_run, chainOnto_nesting _ _ ih, ih]

theorem expect_nesting (kind : Kind) (diagnostic : Diagnostic) :
    (state.expect kind diagnostic).nesting = state.nesting := by
  unfold expect
  dsimp only
  split <;> simp

theorem terminated_nesting (diagnostic : Diagnostic) :
    (state.terminated diagnostic).2.nesting = state.nesting :=
  (expect_nesting ..).trans (ofLevels_nesting state Level.all)

/-- After a statement no operator is left that waits for its operand. -/
theorem statement_nesting : state.statement.2.nesting = state.nesting := by
  rw [statement_eq]
  split
  · exact (terminated_nesting ..).trans (consume_nesting state)
  · exact terminated_nesting ..

theorem skipToBoundary_nesting : state.skipToBoundary.nesting = state.nesting := by
  fun_induction skipToBoundary state with
  | case1 => rfl
  | case2 => rfl
  | case3 => rfl
  | case4 state _ _ _ ih => rw [ih, consume_nesting]

theorem settle_nesting : state.settle.nesting = state.nesting := by
  unfold settle
  split
  · exact skipToBoundary_nesting state.lowered
  · rfl

/-- From one statement to the next the count stays what it is. -/
theorem settled_nesting : state.statement.2.settle.nesting = state.nesting := by
  rw [settle_nesting, statement_nesting]

theorem heads_nesting {state : ParseState} (flat : state.nesting = 0) :
    ∀ head ∈ state.heads, head.nesting = 0 := by
  fun_induction heads state with
  | case1 => simp
  | case2 state notEnd ih =>
    intro head among
    rcases List.mem_cons.mp among with rfl | later
    · exact flat
    · exact ih ((settled_nesting state).trans flat) head later

end ParseState

end ScriptFront
