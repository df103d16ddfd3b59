import Mathlib.Data.List.Forall2
import ScriptFront.Parse.Session

/-!
# Lines in place of issues

A line writer keeps no issues, but it knows of them what a collection knows: it is the collection
seen through `Collection.toWriter`. Seeing is a `Reporter.View`: it does not matter whether a
reporter is told something before it is seen or after. What holds of a single report holds of a
parse and of a whole session, so that both reporters answer alike in all of them
(`session_in_parallel`).
-/
namespace ScriptFront

namespace Reporter

variable {σ τ : Type} [Reporter σ] [Reporter τ]

/-- A way to see one reporter as another, which is told the same and counts the same errors. -/
structure View (view : σ → τ) : Prop where
  record : ∀ reporter issue, record (view reporter) issue = view (record reporter issue)
  errorCount : ∀ reporter, errorCount (view reporter) = errorCount reporter

namespace View

variable {view : σ → τ} (isView : View view)

include isView

theorem recordAll (reporter : σ) (issues : List Issue) :
    recordAll (view reporter) issues = view (recordAll reporter issues) :=
  List.foldl_hom view isView.record

theorem verdict (reporter : σ) (program : Program) :
    verdict (view reporter) program = verdict reporter program :=
  verdict_congr (isView.errorCount reporter) program

theorem parse (reporter : σ) (source : String) :
    parse (view reporter) source =
      ((parse reporter source).1, view (parse reporter source).2) := by
  have told := isView.recordAll reporter (ScriptFront.parse source).issues
  rw [Reporter.parse, Reporter.parse, told, isView.verdict]

theorem take (reporter : σ) (step : SessionStep) :
    take (view reporter) step = ((take reporter step).1, view (take reporter step).2) := by
  cases step with
  | report issue => simp [Reporter.take, isView.record]
  | parse source => simp [Reporter.take, isView.parse]

/-- What a step keeps, a session keeps. -/
theorem session (reporter : σ) (steps : List SessionStep) :
    session (view reporter) steps = (session reporter steps).map (Prod.map id view) := by
  induction steps generalizing reporter with
  | nil => rfl
  | cons step steps ih =>
    rw [Reporter.session, Reporter.session, isView.take, ih, List.map_cons]
    rfl

end View

/-- The same verdict on a step, and the same counts after it. -/
structure Agrees (left : Option Verdict × σ) (right : Option Verdict × τ) : Prop where
  verdict : left.1 = right.1
  errorCount : errorCount left.2 = errorCount right.2
  hadError : hadError left.2 = hadError right.2
  warningCount : warningCount left.2 = warningCount right.2

end Reporter

open Reporter

namespace Collection

/-- The writer that was told what is in the collection. -/
def toWriter (accepts : Bool) (collection : Collection) : LineWriter where
  accepts := accepts
  written :=
    if accepts then String.join (collection.issues.toList.map fun issue => issue.text ++ "\n")
    else ""
  errors := errorCount collection
  warnings := warningCount collection

theorem record_issues (collection : Collection) (issue : Issue) :
    (record collection issue).issues.toList = collection.issues.toList ++ [issue] :=
  Array.toList_push

theorem errorCount_record (collection : Collection) (issue : Issue) :
    errorCount (record collection issue) =
      if issue.isError then errorCount collection + 1 else errorCount collection := by
  change (record collection issue).issues.toList.countP _ = _
  rw [record_issues, List.countP_append, List.countP_singleton]
  split <;> rfl

theorem warningCount_record (collection : Collection) (issue : Issue) :
    warningCount (record collection issue) =
      if issue.isError then warningCount collection else warningCount collection + 1 := by
  change (record collection issue).issues.toList.countP _ = _
  rw [record_issues, List.countP_append, List.countP_singleton]
  cases issue.isError <;> rfl

/-- Every issue counts once. -/
theorem errorCount_add_warningCount (collection : Collection) :
    errorCount collection + warningCount collection = collection.size := by
  have total := List.length_eq_countP_add_countP Issue.isError (l := collection.issues.toList)
  have size : collection.size = collection.issues.toList.length := rfl
  have warnings : warningCount collection = collection.issues.toList.countP (! ·.isError) := rfl
  rw [size, total, warnings]
  simp only [Bool.not_eq_true, Bool.decide_eq_false]
  rfl

/-- Told an issue, a writer has its line as well and counts it as the collection does. -/
theorem isView_toWriter (accepts : Bool) : View (toWriter accepts) where
  record collection issue := by
    have errors := errorCount_record collection issue
    have warnings := warningCount_record collection issue
    have issues := record_issues collection issue
    change LineWriter.record _ _ = _
    unfold LineWriter.record toWriter
    rw [errors, warnings, issues]
    cases accepts <;> simp [String.join_append]
  errorCount _ := rfl

theorem toWriter_empty (accepts : Bool) : empty.toWriter accepts = LineWriter.new accepts := by
  cases accepts <;> rfl

end Collection

/-- In any session a collection and a writer agree after every step. The writer has written a line
for each issue in the collection, in order, and each of these counts as an error or as a warning. A
writer whose destination takes nothing agrees with one whose destination takes everything, but for
what is written. -/
theorem session_in_parallel (steps : List SessionStep) :
    List.Forall₂
      (fun kept written => Agrees kept written ∧
        written.2.written =
          String.join (kept.2.issues.toList.map fun issue => issue.text ++ "\n") ∧
        errorCount written.2 + warningCount written.2 = kept.2.size)
      (session Collection.empty steps) (session (LineWriter.new true) steps) ∧
    List.Forall₂ (fun written lost => Agrees written lost ∧ lost.2.written = "")
      (session (LineWriter.new true) steps) (session (LineWriter.new false) steps) := by
  have seen (accepts : Bool) : session (LineWriter.new accepts) steps =
      (session Collection.empty steps).map (Prod.map id (Collection.toWriter accepts)) := by
    rw [← Collection.toWriter_empty, (Collection.isView_toWriter accepts).session]
  rw [seen true, seen false]
  constructor
  · rw [List.forall₂_map_right_iff, List.forall₂_same]
    intro entry _
    exact ⟨⟨rfl, rfl, rfl, rfl⟩, rfl, entry.2.errorCount_add_warningCount⟩
  · rw [List.forall₂_map_left_iff, List.forall₂_map_right_iff, List.forall₂_same]
    intro entry _
    exact ⟨⟨rfl, rfl, rfl, rfl⟩, rfl⟩

end ScriptFront
