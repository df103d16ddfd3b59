import ScriptFront.Options.Basic

/-!
# Command lines

A command line names a command, and options before and after it. An option has a long name, some
also have a letter; letters can be written together. An option's value stands in the next argument,
or after `=`, or directly after the letter. After `--` every argument is a file. An option can be
given once on either side of the command; what is given after it counts more.
-/
namespace ScriptFront

/-- Why a command line is refused. -/
inductive UsageFault where
  | unknownOption (text : String)
  | unexpectedValue (option : String)
  | missingValue (option : String)
  | invalidValue (option : String)
  | repeatedOption (option : String)
  | conflict
  | unknownCommand (text : String)
  | missingCommand
  | emptyFile
  deriving DecidableEq, Repr

def UsageFault.message : UsageFault → String
  | unknownOption text => "unexpected argument '" ++ text ++ "' found"
  | unexpectedValue option => "unexpected value for '--" ++ option ++ "' found"
  | missingValue option => "a value is required for '--" ++ option ++ "' but none was supplied"
  | invalidValue option => "invalid value for '--" ++ option ++ "'"
  | repeatedOption option => "the argument '--" ++ option ++ "' cannot be used multiple times"
  | conflict => "arguments cannot be used with each other"
  | unknownCommand text => "unrecognized subcommand '" ++ text ++ "'"
  | missingCommand => "a subcommand is required but one was not provided"
  | emptyFile => "a value is required for '[FILE]...' but none was supplied"

inductive CommandName where
  | tokens | parse
  deriving DecidableEq, Repr

def CommandName.ofText? : String → Option CommandName
  | "tokens" => some tokens
  | "parse" => some parse
  | _ => none

inductive CommandOption where
  | config | format | color | noColor | verbose | eval | output | version
  deriving DecidableEq, Repr

namespace CommandOption

def all : List CommandOption := [config, format, color, noColor, verbose, eval, output, version]

def name : CommandOption → String
  | config => "config"
  | format => "format"
  | color => "color"
  | noColor => "no-color"
  | verbose => "verbose"
  | eval => "eval"
  | output => "output"
  | version => "version"

def letter? : CommandOption → Option Char
  | config => some 'c'
  | verbose => some 'v'
  | eval => some 'e'
  | output => some 'o'
  | version => some 'V'
  | format | color | noColor => none

def takesValue : CommandOption → Bool
  | config | format | eval | output => true
  | color | noColor | verbose | version => false

/-- Whether the option can stand before the command, or else after the given one. -/
def allowed : Option CommandName → CommandOption → Bool
  | _, config | _, format | _, color | _, noColor | _, verbose => true
  | command, eval => command.isSome
  | command, output => command = some .parse
  | command, version => command.isNone

end CommandOption

/-- What was given on one side of the command. -/
structure Given where
  config : Option String
  format : Option ReportFormat
  color : Bool
  noColor : Bool
  /-- How often more detail was asked for. -/
  verbosity : Nat
  eval : Option String
  output : Option OutputKind
  /-- The files, the last one first. -/
  files : List String
  deriving DecidableEq, Repr

/-- Why the reading of a command line stops early. -/
inductive Stop where
  | version
  | refused (fault : UsageFault)
  deriving DecidableEq, Repr

namespace Given

def nothing : Given := ⟨none, none, false, false, 0, none, none, []⟩

/-- Sets a value, which must not be set yet. -/
def once {α : Type} (option : CommandOption) (current : Option α) (value : α) :
    Except Stop (Option α) :=
  match current with
  | some _ => .error (.refused (.repeatedOption option.name))
  | none => .ok (some value)

def onceFlag (option : CommandOption) (current : Bool) : Except Stop Bool :=
  if current then .error (.refused (.repeatedOption option.name)) else .ok true

/-- A value among the names of a type. -/
def choice {α : Type} [Named α] (option : CommandOption) (value : String) : Except Stop α :=
  match Named.ofName? value with
  | some chosen => .ok chosen
  | none => .error (.refused (.invalidValue option.name))

/-- Takes an option that has a value. -/
def setValue (given : Given) (option : CommandOption) (value : String) : Except Stop Given := do
  match option with
  | .config =>
    if value.isEmpty then throw (.refused (.missingValue option.name))
    return { given with config := ← once option given.config value }
  | .format => return { given with format := ← once option given.format (← choice option value) }
  | .eval => return { given with eval := ← once option given.eval value }
  | .output => return { given with output := ← once option given.output (← choice option value) }
  | _ => throw (.refused (.unexpectedValue option.name))

/-- Takes an option that has no value. -/
def setFlag (given : Given) (option : CommandOption) : Except Stop Given := do
  match option with
  | .color => return { given with color := ← onceFlag option given.color }
  | .noColor => return { given with noColor := ← onceFlag option given.noColor }
  | .verbose => return { given with verbosity := given.verbosity + 1 }
  | .version => throw .version
  | _ => throw (.refused (.missingValue option.name))

/-- Takes a file. -/
def addFile (given : Given) (file : String) : Except Stop Given :=
  if file.isEmpty then .error (.refused .emptyFile)
  else .ok { given with files := file :: given.files }

/-- Takes options by their letters. The last one may still wait for its value. -/
def letters (command : Option CommandName) (given : Given) :
    List Char → Except Stop (Given × Option CommandOption)
  | [] => .ok (given, none)
  | letter :: rest =>
    match CommandOption.all.find? fun option =>
      option.allowed command && option.letter? == some letter with
    | none => .error (.refused (.unknownOption (String.ofList ['-', letter])))
    | some option =>
      if option.takesValue then
        match rest with
        | [] => .ok (given, some option)
        | '=' :: value => do return (← given.setValue option (String.ofList value), none)
        | value => do return (← given.setValue option (String.ofList value), none)
      else do letters command (← given.setFlag option) rest

/-- Takes an option by its long name, without the dashes. It may still wait for its value. -/
def long (command : Option CommandName) (given : Given) (text : List Char) :
    Except Stop (Given × Option CommandOption) :=
  let name := String.ofList (text.takeWhile (· != '='))
  match CommandOption.all.find? fun option => option.allowed command && option.name == name with
  | none => .error (.refused (.unknownOption ("--" ++ name)))
  | some option =>
    match option.takesValue, text.dropWhile (· != '=') with
    | true, [] => .ok (given, some option)
    | true, _ :: value => do return (← given.setValue option (String.ofList value), none)
    | false, [] => do return (← given.setFlag option, none)
    | false, _ => .error (.refused (.unexpectedValue option.name))

/-- Whether an argument is an option. A single dash is a file. -/
def looksLikeOption (argument : String) : Bool :=
  match argument.toList with
  | '-' :: _ :: _ => true
  | _ => false

/-- Options that exclude each other. -/
def settled (given : Given) : Except Stop Given :=
  if given.color && given.noColor then .error (.refused .conflict)
  else if given.eval.isSome && !given.files.isEmpty then .error (.refused .conflict)
  else .ok given

/-- Takes the arguments after the command. An option may wait for its value. -/
def afterCommand (command : CommandName) (waiting : Option CommandOption) (given : Given) :
    List String → Except Stop Given
  | [] =>
    match waiting with
    | some option => .error (.refused (.missingValue option.name))
    | none => given.settled
  | argument :: rest =>
    match waiting with
    | some option =>
      if looksLikeOption argument then .error (.refused (.missingValue option.name))
      else do afterCommand command none (← given.setValue option argument) rest
    | none =>
      match argument.toList with
      | ['-', '-'] => do settled (← rest.foldlM addFile given)
      | '-' :: '-' :: text => do
        let (next, waiting) ← given.long (some command) text
        afterCommand command waiting next rest
      | '-' :: letter :: more => do
        let (next, waiting) ← given.letters (some command) (letter :: more)
        afterCommand command waiting next rest
      | _ => do afterCommand command none (← given.addFile argument) rest

end Given

/-- What is asked for, and where. -/
structure Invocation where
  command : CommandName
  config : Option String
  /-- The options that are set on the command line. -/
  options : Options
  verbosity : Nat
  eval : Option String
  files : List String
  deriving DecidableEq, Repr

/-- What was given after the command counts more than what was given before it. -/
def Invocation.of (command : CommandName) (before after : Given) : Invocation where
  command
  config := after.config.or before.config
  options :=
    { diagnostics :=
        { format := after.format.or before.format
          color :=
            if before.color || after.color then some true
            else if before.noColor || after.noColor then some false
            else none }
      output :=
        match command with
        | .tokens => some .tokens
        | .parse => after.output }
  verbosity := if after.verbosity = 0 then before.verbosity else after.verbosity
  eval := after.eval
  files := after.files.reverse

/-- Takes the arguments before the command, and then the others. -/
def Given.beforeCommand (waiting : Option CommandOption) (given : Given) :
    List String → Except Stop Invocation
  | [] =>
    match waiting with
    | some option => .error (.refused (.missingValue option.name))
    | none => .error (.refused .missingCommand)
  | argument :: rest =>
    match waiting with
    | some option =>
      if looksLikeOption argument then .error (.refused (.missingValue option.name))
      else do beforeCommand none (← given.setValue option argument) rest
    | none =>
      match argument.toList with
      | ['-', '-'] => .error (.refused .missingCommand)
      | '-' :: '-' :: text => do
        let (next, waiting) ← given.long none text
        beforeCommand waiting next rest
      | '-' :: letter :: more => do
        let (next, waiting) ← given.letters none (letter :: more)
        beforeCommand waiting next rest
      | _ =>
        match CommandName.ofText? argument with
        | none => .error (.refused (.unknownCommand argument))
        | some command => do
          let after ← afterCommand command none .nothing rest
          let before ← given.settled
          return .of command before after

inductive CommandLine where
  | version
  | run (invocation : Invocation)
  deriving DecidableEq, Repr

/-- Reads a command line. -/
def CommandLine.ofArguments (arguments : List String) : Except UsageFault CommandLine :=
  match Given.nothing.beforeCommand none arguments with
  | .ok invocation => .ok (.run invocation)
  | .error .version => .ok .version
  | .error (.refused fault) => .error fault

end ScriptFront
