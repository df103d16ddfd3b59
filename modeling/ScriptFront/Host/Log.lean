import ScriptFront.Options.Basic
import ScriptFront.Parse.Program
import ScriptFront.Pattern.Meaning
import ScriptFront.Text.Controls

/-!
# The log

What a run tells about itself, line by line. Every record has a level and a target; a filter says up
to which level the records of a target are shown. A filter is written as a list of directives, such
as `info,scanner=trace`; the longest target that a record's target begins with decides. After a
slash may follow a pattern that occurs in the text of every record that is shown.
-/
namespace ScriptFront

inductive LogLevel where
  | error | warn | info | debug | trace
  deriving DecidableEq, Repr

namespace LogLevel

/-- From the most urgent to the most detailed. -/
def all : List LogLevel := [error, warn, info, debug, trace]

/-- How detailed the level is; 0 is left for showing nothing. -/
def detail (level : LogLevel) : Nat := all.idxOf level + 1

def name : LogLevel → String
  | error => "ERROR"
  | warn => "WARN"
  | info => "INFO"
  | debug => "DEBUG"
  | trace => "TRACE"

/-- The greatest detail that is shown at a level written out in any case, or none at `off`. -/
def detailOf? (text : String) : Option Nat :=
  let upper := text.map Char.toUpper
  if upper == "OFF" then some 0 else (all.find? (·.name == upper)).map detail

end LogLevel

inductive LogRecord where
  | optionsLoaded (path : String)
  | optionsAbsent (directory : String)
  | effectiveOptions (options : Options)
  | parsing (characters : Nat)
  | scanned (token : Token)
  | recovering (line : Nat)
  | parsed (statements errors : Nat)
  | finished (inputs : Nat)
  deriving DecidableEq, Repr

/-- The name of the file that holds the options of a directory. -/
def optionsFileName : String := "ember.json"

namespace LogRecord

def level : LogRecord → LogLevel
  | scanned _ => .trace
  | _ => .debug

def target : LogRecord → String
  | optionsLoaded _ | optionsAbsent _ => "ember_options"
  | effectiveOptions _ | finished _ => "ember"
  | parsing _ | recovering _ | parsed .. => "ember_parser::parser"
  | scanned _ => "ember_scanner::scanner"

/-- The text of a record, in a run that took the given number of milliseconds. -/
def text (elapsed : String) : LogRecord → String
  | optionsLoaded path => "loaded configuration from " ++ path
  | optionsAbsent directory =>
    "no " ++ optionsFileName ++ " in " ++ directory ++ ", using defaults"
  | effectiveOptions options => "effective configuration: " ++ options.summary
  | parsing characters => "parsing module (" ++ toString characters ++ " chars)"
  | scanned token =>
    if token.isError then
      "scan error '" ++ token.lexeme ++ "' on line " ++ toString token.line
    else
      "scanned " ++ token.kind.name ++ " '" ++ token.lexeme ++ "' on line " ++ toString token.line
  | recovering line => "synchronizing at line " ++ toString line
  | parsed statements errors =>
    "parsed " ++ toString statements ++ " statement(s), " ++ toString errors ++ " error(s)"
  | finished inputs => "parsed " ++ toString inputs ++ " input(s) in " ++ elapsed ++ "ms"

/-- The further lines of a text are indented. -/
def indented (text : String) : String :=
  String.ofList (text.toList.flatMap fun c => if c = '\n' then "\n    ".toList else [c])

/-- A line of the log. Control sequences in a text do not reach the terminal. -/
def line (elapsed : String) (record : LogRecord) : String :=
  let level := record.level.name
  withoutControls ("[" ++ level ++ String.ofList (List.replicate (5 - level.length) ' ') ++ " "
    ++ record.target ++ "] " ++ indented (record.text elapsed) ++ "\n")

def ofStep : ParseStep → LogRecord
  | .pulled token => scanned token
  | .recovering line => recovering line

/-- What is told about a parse after which the reporter knows of `errors` errors. -/
def ofParse (source : String) (outcome : Parse) (errors : Nat) : List LogRecord :=
  parsing source.length :: outcome.steps.map ofStep ++ [parsed outcome.program.size errors]

/-- What is told about the scanning of a source. -/
def ofScan (source : String) : List LogRecord := (tokenize source).map scanned

end LogRecord

/-- Up to which detail the records of a target are shown; without a target those of all. -/
structure LogDirective where
  target : Option String
  detail : Nat
  deriving DecidableEq, Repr

namespace LogDirective

/-- Shows the records of all targets up to a level. -/
def upTo (level : LogLevel) : LogDirective := ⟨none, level.detail⟩

/-- The length of the target; the longest decides. -/
def weight (directive : LogDirective) : Nat := (directive.target.map String.length).getD 0

def appliesTo (directive : LogDirective) (target : String) : Bool :=
  directive.target.all fun start => start.toList.isPrefixOf target.toList

end LogDirective

structure LogFilter where
  directives : List LogDirective
  /-- What occurs in the text of every record that is shown. -/
  content : Option Pattern.Matcher
  deriving DecidableEq, Repr

namespace LogFilter

/-- A directive, or the part of it that is not understood. -/
def directiveOf (text : List Char) : Except String LogDirective :=
  let target (name : List Char) : Option String := some (String.ofList name)
  match text.splitOn '=' with
  | [single] =>
    match LogLevel.detailOf? (String.ofList single) with
    | some detail => .ok ⟨none, detail⟩
    | none => .ok ⟨target single, LogLevel.trace.detail⟩
  | [name, level] =>
    let level := String.ofList (trimmed level)
    if level.isEmpty then .ok ⟨target name, LogLevel.trace.detail⟩
    else
      match LogLevel.detailOf? level with
      | some detail => .ok ⟨target name, detail⟩
      | none => .error level
  | _ => .error (String.ofList text)

/-- Sets the detail of a target; an earlier setting is replaced in its place. -/
def insert (directives : List LogDirective) (directive : LogDirective) : List LogDirective :=
  if directives.any (·.target == directive.target) then
    directives.map fun earlier =>
      if earlier.target == directive.target then directive else earlier
  else directives ++ [directive]

def warning (reason : String) : String := "warning: " ++ reason ++ ", ignoring it\n"

def invalidSpec (part : String) : String := "invalid logging spec '" ++ part ++ "'"

/-- What a text asks to occur in records, and the warning if it is no pattern. -/
def contentOf (pattern : String) : Option Pattern.Matcher × List String :=
  match Pattern.Matcher.ofText pattern with
  | .ok matcher => (some matcher, [])
  | .error fault => (none, [warning ("invalid regex filter - " ++ fault.message pattern)])

/-- The filter that a text describes, and the warnings about the parts that are not understood. A
text without directives shows errors only. -/
def ofText (text : String) : LogFilter × List String :=
  let names := text.toList.takeWhile (· ≠ '/')
  let more := (text.toList.dropWhile (· ≠ '/')).drop 1
  if more.contains '/' then
    (⟨[.upTo .error], none⟩, [warning (invalidSpec text ++ " (too many '/'s)")])
  else
    let parts := ((names.splitOn ',').map trimmed).filter (!·.isEmpty)
    let read := parts.map directiveOf
    let directives := (read.filterMap Except.toOption).foldl insert []
    let warnings := read.filterMap fun
      | .ok _ => none
      | .error part => some (warning (invalidSpec part))
    let shown := if directives.isEmpty then [.upTo .error] else directives
    if text.toList.contains '/' then
      let (content, refused) := contentOf (String.ofList more)
      (⟨shown, content⟩, warnings ++ refused)
    else (⟨shown, none⟩, warnings)

/-- The filter for a number of requests for more detail. -/
def ofVerbosity : Nat → LogFilter
  | 0 => ⟨[.upTo .warn], none⟩
  | 1 => ⟨[.upTo .debug], none⟩
  | _ => ⟨[.upTo .trace], none⟩

/-- The directive that decides about a target: the longest that applies, and the last of those. -/
def directiveFor (filter : LogFilter) (target : String) : Option LogDirective :=
  (filter.directives.filter (·.appliesTo target)).foldl
    (fun best directive =>
      match best with
      | some longer => if longer.weight ≤ directive.weight then some directive else some longer
      | none => some directive)
    none

def shows (filter : LogFilter) (elapsed : String) (record : LogRecord) : Bool :=
  (filter.directiveFor record.target).any (record.level.detail ≤ ·.detail)
    && filter.content.all fun matcher => matcher.occursIn (record.text elapsed).toList

end LogFilter

end ScriptFront
