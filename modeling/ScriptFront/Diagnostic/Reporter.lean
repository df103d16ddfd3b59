import ScriptFront.Diagnostic.Issue

/-!
# Reporters

A reporter is told the issues of one or more sources, one after the other, and knows how many of
them were errors. One reporter keeps the issues, the other writes each of them as a line of text and
keeps only counts. Text that its destination does not accept is lost, but counted all the same.
-/
namespace ScriptFront

class Reporter (σ : Type) where
  record : σ → Issue → σ
  errorCount : σ → Nat
  warningCount : σ → Nat

namespace Reporter

variable {σ : Type} [Reporter σ]

def hadError (reporter : σ) : Bool := 0 < errorCount reporter

/-- Tells a reporter several issues in order. -/
def recordAll (reporter : σ) (issues : List Issue) : σ := issues.foldl record reporter

end Reporter

/-- The issues reported so far, in order. -/
structure Collection where
  issues : Array Issue
  deriving DecidableEq, Repr

namespace Collection

def empty : Collection := ⟨#[]⟩

def size (collection : Collection) : Nat := collection.issues.size

def isEmpty (collection : Collection) : Bool := collection.issues.isEmpty

def toJson (collection : Collection) : Json :=
  .array (collection.issues.toList.map Issue.toJson)

instance : Reporter Collection where
  record collection issue := ⟨collection.issues.push issue⟩
  errorCount collection := collection.issues.toList.countP Issue.isError
  warningCount collection := collection.issues.toList.countP (! ·.isError)

end Collection

/-- The lines written so far, and the counts of what they were written for. -/
structure LineWriter where
  /-- Whether the destination takes text. -/
  accepts : Bool
  written : String
  errors : Nat
  warnings : Nat
  deriving DecidableEq, Repr

namespace LineWriter

def new (accepts : Bool) : LineWriter := ⟨accepts, "", 0, 0⟩

def record (writer : LineWriter) (issue : Issue) : LineWriter :=
  { writer with
    written := if writer.accepts then writer.written ++ (issue.text ++ "\n") else writer.written
    errors := if issue.isError then writer.errors + 1 else writer.errors
    warnings := if issue.isError then writer.warnings else writer.warnings + 1 }

instance : Reporter LineWriter where
  record := record
  errorCount := errors
  warningCount := warnings

end LineWriter

end ScriptFront
