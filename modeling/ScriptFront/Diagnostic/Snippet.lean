import ScriptFront.Diagnostic.Issue
import ScriptFront.Text.Excerpt
import ScriptFront.Text.Padding
import ScriptFront.Text.Wrap

/-!
# Snippets

An issue is shown with the line of the source that it is about, one line before and one after, and a
label below the text that is blamed. Only the plain drawing is described here; what it looks like in
colours is left out.
-/
namespace ScriptFront

/-- A marked stretch of a source, in bytes. -/
structure IssueLabel where
  text : String
  offset : Nat
  length : Nat
  deriving DecidableEq, Repr

namespace Issue

/-- The code as it is shown; the code 0 is not. -/
def shownCode (issue : Issue) : Option String :=
  if issue.code = 0 then none
  else some ("E" ++ String.ofList (List.replicate (4 - (toString issue.code).length) '0')
    ++ toString issue.code)

/-- What the label below the blamed text says. -/
def labelText (issue : Issue) : String :=
  match issue.token.kind with
  | .endOfInput => "end of file"
  | .error => "here"
  | _ => "at '" ++ issue.token.lexeme ++ "'"

/-- The label on the bytes of the token that is blamed. -/
def label (map : LineMap) (issue : Issue) : IssueLabel :=
  let (start, stop) := map.byteRange issue.token.span
  ⟨issue.labelText, start, stop - start⟩

end Issue

namespace Snippet

/-- The columns that the message of an issue may take, and that the page has for it in all. -/
def messageWidth : Nat := 194

/-- The rule below a marked stretch from one column to another, with the place where its label
hangs. An empty stretch is pointed at. -/
def rule (start stop : Nat) (pointed : Bool) : String :=
  let hook := (start + stop) / 2
  String.ofList (List.replicate (hook - start) '─' ++ (if pointed then '▲' else '┬')
    :: List.replicate (stop - hook - 1) '─')

/-- The lines of a label. -/
def labelLines (label : String) : List String :=
  match label.toList.splitOn '\n' |>.map String.ofList with
  | first :: second :: rest => ("╰─┤ " ++ first) :: (second :: rest).map ("  │ " ++ ·)
  | _ => ["╰── " ++ label]

def margin (numbers : Nat) : String := spaces (numbers + 2)

/-- The rows below a row in which the label is. -/
def labelRows (numbers : Nat) (row : ExcerptRow) (label : IssueLabel) : String :=
  let start := row.columnOf label.offset
  let stop :=
    if label.length = 0 then start + 1
    else max (row.columnOf (label.offset + label.length)) (start + 1)
  let below (text : String) : String := margin numbers ++ "· " ++ text ++ "\n"
  below (spaces start ++ rule start stop (label.length = 0))
    ++ String.join ((labelLines label.text).map fun line =>
      below (spaces ((start + stop) / 2) ++ line))

/-- A row of the source, and its label; `numbers` is the width of the line numbers. -/
def sourceRow (numbers : Nat) (label : IssueLabel) (row : ExcerptRow) : String :=
  " " ++ alignRight numbers (toString row.number) ++ " │ " ++ String.ofList row.shown ++ "\n"
    ++ if row.marks label.offset (label.offset + label.length) then labelRows numbers row label
      else ""

def symbol : Severity → String
  | .error => "×"
  | .warning => "⚠"

/-- The message of an issue, behind its symbol. -/
def messageRows (issue : Issue) : String :=
  match wrapped messageWidth issue.message.toList |>.map String.ofList with
  | [] => ""
  | first :: rest =>
    "  " ++ symbol issue.severity ++ " " ++ first ++ "\n"
      ++ String.join (rest.map fun line => "  │ " ++ line ++ "\n")

/-- An issue with the source around it. -/
def draw (file : String) (map : LineMap) (source : SourceLines) (issue : Issue) : String :=
  let label := issue.label map
  let rows := source.excerpt label.offset (label.offset + label.length)
  let numbers := (toString ((rows.getLast?.map ExcerptRow.number).getD 0)).length
  let (line, column) := source.placeOf label.offset
  let heading :=
    match issue.shownCode with
    | some code => code ++ "\n\n"
    | none => ""
  heading ++ messageRows issue
    ++ margin numbers ++ "╭─[" ++ file ++ ":" ++ toString line ++ ":" ++ toString column ++ "]\n"
    ++ String.join (rows.map (sourceRow numbers label))
    ++ margin numbers ++ "╰────\n"

/-- All issues of a source, one after the other, drawn without colours. -/
def drawAll (file source : String) (issues : List Issue) : String :=
  let map := LineMap.ofText source
  let lines := SourceLines.ofText source
  String.join (issues.map (draw file map lines))

end Snippet

end ScriptFront
