import ScriptFront.Proofs.Parse.Moved
import ScriptFront.Proofs.Parse.Verdict
import ScriptFront.Proofs.Token.Layout

/-!
# Sources that are laid out anew

The tokens of a source that is laid out anew stand elsewhere, and a parse never looks at where they
stand. So it gives the same program and the same verdict, and the same issues about tokens that
stand elsewhere (`parseSource_layout`).
-/
namespace ScriptFront

open ParseState

/-- The issue wherever its token stands. -/
def Issue.placeless (issue : Issue) : Issue := { issue with token := issue.token.placeless }

def Displacement.placeless : Displacement := ⟨Token.placeless, fun _ => rfl⟩

/-- A parse of tokens of which the places are not known. -/
theorem moved_placeless (source : String) :
    Moved .placeless [] (ofSource source)
      ((initial []).pull ((tokenize source).map Token.placeless)) := by
  have retold : Retold .placeless [] (initial (tokenize source)) (initial []) := ⟨rfl, rfl, rfl⟩
  exact retold.pull (stream_tokenize source)

section

variable {source text : String}
  (same : (tokenize text).map Token.placeless = (tokenize source).map Token.placeless)

include same

theorem parse_placeless : (parse text).program = (parse source).program ∧
    (parse text).issues.map Issue.placeless = (parse source).issues.map Issue.placeless := by
  obtain ⟨trees, finish⟩ := (moved_placeless source).run
  obtain ⟨trees', finish'⟩ := (moved_placeless text).run
  rw [same] at trees' finish'
  have issues : (ofSource text).finish.issues.map Issue.placeless =
      (ofSource source).finish.issues.map Issue.placeless := by
    have both := finish'.issues.symm.trans finish.issues
    rwa [List.append_nil, List.append_nil] at both
  constructor
  · have statements := (parse_statements text).trans (trees'.trans trees.symm)
    rw [← parse_statements] at statements
    exact congrArg Program.mk statements
  · rw [parse_issues, parse_issues, List.map_reverse, List.map_reverse, issues]

theorem parseSource_placeless : (parseSource text).1 = (parseSource source).1 ∧
    (parseSource text).2.issues.toList.map Issue.placeless =
      (parseSource source).2.issues.toList.map Issue.placeless := by
  obtain ⟨program, issues⟩ := parse_placeless same
  rw [← parseSource_issues, ← parseSource_issues] at issues
  have count : Reporter.errorCount (parseSource text).2 =
      Reporter.errorCount (parseSource source).2 := by
    have severities := congrArg (List.countP Issue.isError) issues
    rwa [List.countP_map, List.countP_map] at severities
  refine ⟨?_, issues⟩
  rw [parseSource_eq, parseSource_eq, program]
  exact Reporter.verdict_congr count _

end

/-- Layout does not matter: with other white space and comments in front of its words, between them
and behind them, a source that leaves no string open has the same tokens and issues, but for where
they stand, and the same verdict with the same program. -/
theorem parseSource_layout (source text : String)
    (closed : ∀ token ∈ tokenize source, ¬ token.isOpenString)
    (layout : Layout ((tokenize source).dropLast.map (Token.slice source)) text.toList) :
    (tokenize text).map Token.placeless = (tokenize source).map Token.placeless ∧
      (parseSource text).1 = (parseSource source).1 ∧
      (parseSource text).2.issues.toList.map Issue.placeless =
        (parseSource source).2.issues.toList.map Issue.placeless := by
  have same := tokenize_layout closed layout
  exact ⟨same, parseSource_placeless same⟩

theorem parseSource_layout_comments :
    let source := "!true/2@;"
    let text := "//x\n! true /\t//y\n2\n@ ; //z"
    (∀ token ∈ tokenize source, ¬ token.isOpenString) ∧
      Layout ((tokenize source).dropLast.map (Token.slice source)) text.toList ∧
      (tokenize text).map Token.placeless = (tokenize source).map Token.placeless ∧
      (parseSource text).1 = (parseSource source).1 ∧
      (parseSource text).2.issues.toList.map Issue.placeless =
        (parseSource source).2.issues.toList.map Issue.placeless := by
  intro source text
  have closed : ∀ token ∈ tokenize source, ¬ token.isOpenString := by decide +kernel
  have words : (tokenize source).dropLast.map (Token.slice source) =
      [['!'], ['t', 'r', 'u', 'e'], ['/'], ['2'], ['@'], [';']] := by decide +kernel
  have written : text.toList = ['/', '/', 'x', '\n'] ++ (['!'] ++ ([' '] ++
      (['t', 'r', 'u', 'e'] ++ ([' '] ++ (['/'] ++ (['\t', '/', '/', 'y', '\n'] ++ (['2'] ++
        (['\n'] ++ (['@'] ++ ([' '] ++ ([';'] ++ [' ', '/', '/', 'z']))))))))))) := by
    decide +kernel
  have comment (c : Char) (oneLine : '\n' ∉ [c]) : Gap ['/', '/', c, '\n'] :=
    .comment oneLine .nil
  have spaced (c : Char) (more : List Char) (white : c ∈ whiteSpace) : Spaced (c :: more) :=
    ⟨c, more, rfl, white⟩
  have single (c : Char) (white : c ∈ whiteSpace) : Gap [c] := .white white .nil
  have tabbed : Gap ['\t', '/', '/', 'y', '\n'] := .white (by decide) (comment 'y' (by decide))
  have last : Trailing [] [' ', '/', '/', 'z'] :=
    .ending (spaced ' ' _ (by decide))
      (@Ending.comment [' '] ['z'] (single ' ' (by decide)) (by decide))
  have layout : Layout ((tokenize source).dropLast.map (Token.slice source)) text.toList := by
    rw [words, written]
    refine .word (comment 'x' (by decide)) ?_
    refine .word (spaced ' ' _ (by decide)) (single ' ' (by decide)) ?_
    refine .word (spaced ' ' _ (by decide)) (single ' ' (by decide)) ?_
    refine .word (spaced '\t' _ (by decide)) tabbed ?_
    refine .word (spaced '\n' _ (by decide)) (single '\n' (by decide)) ?_
    exact .word (spaced ' ' _ (by decide)) (single ' ' (by decide)) last
  exact ⟨closed, layout, parseSource_layout source text closed layout⟩

end ScriptFront
