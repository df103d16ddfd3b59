import ScriptFront.Command.Arguments
import ScriptFront.Diagnostic.Snippet
import ScriptFront.Options.Loading
import ScriptFront.Parse.Session
import ScriptFront.Syntax.Encoded
import ScriptFront.Syntax.Printed
import ScriptFront.Token.Listing

/-!
# Running a command

A run loads the options, reads all inputs, and only then works on them; so an input that cannot be
read leaves no trace but its error. It is a function of its surroundings. What it would write is its
result: a text for standard output, and for standard error texts with log records between them.
That these can be written is taken for granted.
-/
namespace ScriptFront

/-- A working directory, or why there is none. -/
abbrev WorkingDirectory := Except String String

/-- The path of a directory that is there. -/
instance : Coe String WorkingDirectory := ⟨.ok⟩

/-- What a run sees of the machine. -/
structure Surroundings where
  directory : WorkingDirectory
  read : FileReader
  /-- Which log records are asked for, if that is said apart from the command line. -/
  logSpec : Option String
  /-- Whether standard error is a terminal. -/
  terminal : Bool

/-- A part of what is written to standard error. -/
inductive Emission where
  | text (text : String)
  | log (record : LogRecord)
  deriving DecidableEq, Repr

structure Report where
  exitCode : Nat
  output : String
  emissions : List Emission
  deriving DecidableEq, Repr

structure Input where
  name : String
  text : String
  deriving DecidableEq, Repr

def readInput (read : FileReader) (path : String) : Except HostError Input :=
  match read path with
  | .ok text => .ok ⟨path, text⟩
  | .error fault => .error (.unreadable path fault.message)

/-- The inputs of an invocation: the text that it holds, or its files. -/
def Invocation.inputs (invocation : Invocation) (read : FileReader) :
    Except HostError (List Input) :=
  match invocation.eval with
  | some text => .ok [⟨"<eval>", text⟩]
  | none => invocation.files.mapM (readInput read)

namespace Color

def red : String := "\x1b[31m"
def cyan : String := "\x1b[36m"
def bold : String := "\x1b[1m"
def plain : String := "\x1b[0m"

/-- The text in a colour, if colours are used. -/
def paint (use : Bool) (color text : String) : String :=
  if use then color ++ text ++ plain else text

end Color

/-- An error that ends a run. -/
def errorLine (terminal : Bool) (message : String) : String :=
  Color.paint terminal (Color.bold ++ Color.red) "error" ++ ": " ++ message ++ "\n"

/-- What an input comes to. -/
structure InputReport where
  input : Input
  outcome : Parse
  /-- What a reporter of its own knows about the input. -/
  collection : Collection
  verdict : Verdict
  deriving Repr

namespace InputReport

def of (input : Input) : InputReport :=
  let outcome := parse input.text
  let collection := Reporter.recordAll Collection.empty outcome.issues
  ⟨input, outcome, collection, Reporter.verdict collection outcome.program⟩

def issues (report : InputReport) : List Issue := report.collection.issues.toList

/-- What the log says about the parse. -/
def records (report : InputReport) : List LogRecord :=
  LogRecord.ofParse report.input.text report.outcome (Reporter.errorCount report.collection)

/-- The issues in a format. Only JSON says something when there are none. Snippets are drawn without
colours here, also where these are asked for: which colours they have is left out. -/
def shownIssues (format : ReportFormat) (color : Bool) (report : InputReport) : String :=
  match format with
  | .json =>
    (Json.object [("file", .string report.input.name),
      ("issues", .array (report.issues.map Issue.toJson))]).compact ++ "\n"
  | .pretty =>
    if report.issues.isEmpty then ""
    else
      Color.paint color (Color.bold ++ Color.cyan) report.input.name ++ "\n"
        ++ (Reporter.recordAll (LineWriter.new true) report.issues).written
  | .fancy => Snippet.drawAll report.input.name report.input.text report.issues

/-- What is printed for a program that was read without errors. -/
def shownProgram (kind : OutputKind) (report : InputReport) : String :=
  match report.verdict with
  | .error _ => ""
  | .ok program =>
    match kind with
    | .tree => program.printed
    | .tokens => listing report.input.text
    | .json => program.toJson.indented ++ "\n"
    | .nothing => ""

/-- What the log says while a program is printed. -/
def printingRecords (kind : OutputKind) (report : InputReport) : List LogRecord :=
  match report.verdict, kind with
  | .ok _, .tokens => LogRecord.ofScan report.input.text
  | _, _ => []

def errorCount (report : InputReport) : Nat :=
  match report.verdict with
  | .ok _ => 0
  | .error failure => failure.errorCount

end InputReport

/-- How many errors were found in all inputs. -/
def summaryLine (color : Bool) (errors : Nat) : String :=
  "\n" ++ Color.paint color Color.red
    ("Found " ++ toString errors ++ " error" ++ (if errors = 1 then "" else "s") ++ ".") ++ "\n"

/-- Prints the tokens of the inputs, under their names if there are several. -/
def listInputs (inputs : List Input) : Report where
  exitCode := 0
  output := String.join (inputs.map fun input =>
    (if 1 < inputs.length then "==> " ++ input.name ++ " <==\n" else "") ++ listing input.text)
  emissions := inputs.flatMap fun input => (LogRecord.ofScan input.text).map .log

/-- Parses the inputs and prints programs and issues. -/
def parseInputs (terminal : Bool) (options : Options) (inputs : List Input) : Report :=
  let reports := inputs.map InputReport.of
  let color := options.color terminal
  let errors := reports.foldl (fun total report => total + report.errorCount) 0
  let shown := reports.flatMap fun report =>
    .text (report.shownIssues options.format color)
      :: (report.printingRecords options.outputKind).map Emission.log
  let summary :=
    if errors = 0 ∨ options.format = .json then [] else [Emission.text (summaryLine color errors)]
  { exitCode := if errors = 0 then 0 else 2
    output := String.join (reports.map (InputReport.shownProgram options.outputKind))
    emissions := (reports.flatMap InputReport.records).map .log ++ shown
      ++ .log (.finished inputs.length) :: summary }

/-- Ends a run with an error after what was logged before. -/
def failed (terminal : Bool) (logged : List LogRecord) (message : String) : Report where
  exitCode := 1
  output := ""
  emissions := logged.map .log ++ [.text (errorLine terminal message)]

/-- What was logged before goes before everything else. -/
def Report.after (logged : List LogRecord) (report : Report) : Report :=
  { report with emissions := logged.map .log ++ report.emissions }

/-- The options from a file, and what the log says about them. The working directory is asked for
even if the file is named. -/
def Invocation.fileOptions (invocation : Invocation) (surroundings : Surroundings) :
    List LogRecord × Except HostError Options :=
  match surroundings.directory with
  | .error reason => ([], .error (.inputOutput reason))
  | .ok directory => Options.load surroundings.read invocation.config directory

/-- Runs an invocation. -/
def Invocation.run (invocation : Invocation) (surroundings : Surroundings) : Report :=
  let terminal := surroundings.terminal
  match invocation.fileOptions surroundings with
  | (logged, .error reason) => failed terminal logged reason.message
  | (logged, .ok fileOptions) =>
    let options := fileOptions.overlay invocation.options
    let logged := logged ++ [.effectiveOptions options]
    match invocation.inputs surroundings.read with
    | .error reason => failed terminal logged reason.message
    | .ok [] => failed terminal logged "No input files given."
    | .ok inputs =>
      match invocation.command with
      | .tokens => (listInputs inputs).after logged
      | .parse => (parseInputs terminal options inputs).after logged

/-- The filter for the log of a run, and the warnings about it. -/
def Invocation.logFilter (invocation : Invocation) (surroundings : Surroundings) :
    LogFilter × List String :=
  match surroundings.logSpec with
  | some spec => LogFilter.ofText spec
  | none => (.ofVerbosity invocation.verbosity, [])

/-- The text of an emission; records that the filter does not show have none. -/
def Emission.shown (filter : LogFilter) (elapsed : String) : Emission → String
  | .text shown => shown
  | .log record => if filter.shows elapsed record then record.line elapsed else ""

/-- What a run writes and answers. -/
structure Outcome where
  exitCode : Nat
  output : String
  errors : String
  deriving DecidableEq, Repr

/-- The outcome of a report on a run that took the given number of milliseconds. -/
def Report.outcome (report : Report) (filter : LogFilter) (warnings : List String)
    (elapsed : String) : Outcome where
  exitCode := report.exitCode
  output := report.output
  errors := String.join (warnings ++ report.emissions.map (Emission.shown filter elapsed))

def Invocation.outcome (invocation : Invocation) (surroundings : Surroundings)
    (elapsed : String) : Outcome :=
  let (filter, warnings) := invocation.logFilter surroundings
  (invocation.run surroundings).outcome filter warnings elapsed

def versionText : String := "ember 0.1.0\n"

/-- The outcome of a command line that is not refused. -/
def CommandLine.outcome (line : CommandLine) (surroundings : Surroundings) (elapsed : String) :
    Outcome :=
  match line with
  | version => ⟨0, versionText, ""⟩
  | run invocation => invocation.outcome surroundings elapsed

/-- The files that an invocation may read in a directory. -/
def Invocation.paths (invocation : Invocation) (directory : String) : List String :=
  invocation.config.getD (joinPath directory optionsFileName) :: invocation.files

end ScriptFront
