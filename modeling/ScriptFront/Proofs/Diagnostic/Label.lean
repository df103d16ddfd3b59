import ScriptFront.Diagnostic.Snippet
import ScriptFront.Proofs.Parse.Order
import ScriptFront.Proofs.Token.Lines

/-!
# Labels of issues

A snippet marks the text that an issue blames. The scan counts characters and the snippet counts
bytes, and still the label begins and ends between characters and marks just the token that is
blamed, whatever characters stand before it and in it (`label_marks_blamed`).
-/
namespace ScriptFront

/-- Whether the label stands on this part of the source. -/
def IssueLabel.Marks (source : String) (label : IssueLabel) (part : String) : Prop :=
  Encloses source label.offset (label.offset + label.length) part

/-- A label marks the characters that the token covers. -/
theorem label_marks_slice (source : String) (issue : Issue) :
    (issue.label (LineMap.ofText source)).Marks source
      (String.ofList (issue.token.slice source)) := by
  have encloses := LineMap.byteRange_encloses source issue.token.span
  have stop := Nat.add_sub_of_le encloses.ordered
  rw [IssueLabel.Marks, Issue.label]
  dsimp only
  rw [stop]
  exact encloses

theorem labelText_of_token {issue : Issue} (notEnd : ¬ issue.token.isEnd)
    (notError : ¬ issue.token.isError) :
    issue.labelText = "at '" ++ issue.token.lexeme ++ "'" := by
  rw [Token.isEnd, beq_iff_eq] at notEnd
  rw [Token.isError, beq_iff_eq] at notError
  unfold Issue.labelText
  split
  next isEnd => exact absurd isEnd notEnd
  next isError => exact absurd isError notError
  next => rfl

/-- What an error token covers: one character that begins no token, or all that follows a quote
without another one. -/
theorem slice_of_isError {source : String} {token : Token} (among : token ∈ tokenize source)
    (isError : token.isError) :
    ∃ first rest, source.toList.drop token.start = first :: rest ∧
      (∀ munch, munch <+: first :: rest → ¬ IsForm munch) ∧
      (first = '"' ∧ token.slice source = first :: rest ∨
        first ≠ '"' ∧ token.slice source = [first]) := by
  have notEnd : ¬ token.isEnd := fun isEnd => Token.not_isError_of_isEnd isEnd isError
  obtain ⟨first, rest, here, maximal⟩ := exists_maximal among notEnd
  have none := maximal.isError_iff.mp isError
  obtain ⟨-, quoted, stray⟩ := maximal.isFault none
  refine ⟨first, rest, here, fun munch isPrefix isForm => none ⟨munch, isPrefix, isForm⟩, ?_⟩
  rw [Token.slice, here]
  by_cases quote : first = '"'
  · have length := (quoted (congrArg some quote)).2
    exact .inl ⟨quote, by rw [length, List.take_length]⟩
  · have length := (stray fun same => quote (Option.some.inj same)).2
    exact .inr ⟨quote, by rw [length, List.take_succ_cons, List.take_zero]⟩

/-- The label of an issue marks what the issue blames: the lexeme of a token, the one character or
the open string that is no token, or nothing at the end of the source. -/
theorem label_marks_blamed {source : String} {issue : Issue}
    (among : issue ∈ (parseSource source).2.issues.toList) :
    let label := issue.label (LineMap.ofText source)
    (¬ issue.token.isEnd → ¬ issue.token.isError →
      label.Marks source issue.token.lexeme ∧
        label.text = "at '" ++ issue.token.lexeme ++ "'") ∧
    (issue.token.isError →
      ∃ first rest, source.toList.drop issue.token.start = first :: rest ∧
        (∀ munch, munch <+: first :: rest → ¬ IsForm munch) ∧
        (first = '"' ∧ label.Marks source (String.ofList (first :: rest)) ∨
          first ≠ '"' ∧ label.Marks source (String.ofList [first]))) ∧
    (issue.token.isEnd →
      label.Marks source "" ∧ label.offset = source.utf8ByteSize ∧ label.length = 0) := by
  intro label
  have met : issue.token ∈ tokenize source := by
    rw [parseSource_issues] at among
    exact (blamed_sublist source).subset (List.mem_map_of_mem among)
  have marks : label.Marks source (String.ofList (issue.token.slice source)) :=
    label_marks_slice source issue
  refine ⟨fun notEnd notError => ⟨?_, labelText_of_token notEnd notError⟩, fun isError => ?_,
    fun isEnd => ?_⟩
  · rwa [← lexeme_eq_slice met notError, String.ofList_toList] at marks
  · obtain ⟨first, rest, here, none, quoted | stray⟩ := slice_of_isError met isError
    · exact ⟨first, rest, here, none, .inl ⟨quoted.1, quoted.2 ▸ marks⟩⟩
    · exact ⟨first, rest, here, none, .inr ⟨stray.1, stray.2 ▸ marks⟩⟩
  · obtain ⟨start, length⟩ := place_of_isEnd met isEnd
    have offset : label.offset = source.utf8ByteSize := by
      change (LineMap.ofText source).byteOffset issue.token.start = _
      rw [start, LineMap.byteOffset_eq, List.take_length, String.ofList_toList]
    have inside := marks.inside
    rw [Token.slice, length, List.take_zero] at marks
    exact ⟨marks, offset, by omega⟩

theorem label_marks_blamed_multibyte :
    let source := "print \"é\" +;"
    let issue : Issue := ⟨.error, "Expected expression.", ⟨.mark .semicolon, ";", 11, 1, 1⟩⟩
    let label := issue.label (LineMap.ofText source)
    issue ∈ (parseSource source).2.issues.toList ∧ label.Marks source ";" ∧
      label = ⟨"at ';'", 12, 1⟩ := by
  intro source issue label
  have among : issue ∈ (parseSource source).2.issues.toList := by decide +kernel
  have marks := ((label_marks_blamed among).1 (by decide) (by decide)).1
  exact ⟨among, marks, by decide +kernel⟩

end ScriptFront
