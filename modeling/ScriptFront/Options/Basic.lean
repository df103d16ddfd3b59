import ScriptFront.Json.Value

/-!
# Options

How issues are shown and what is printed for a program. Every option may be left open; what is set
in one place can be overlaid by what is set in another, and what is set nowhere has a default.
-/
namespace ScriptFront

/-- A type of which the values have names that a user can give. -/
class Named (α : Type) where
  all : List α
  name : α → String
  /-- What holds where nothing is set. -/
  default : α

namespace Named

variable {α : Type} [Named α]

def ofName? (text : String) : Option α := (all : List α).find? (name · == text)

/-- The message for a text that is no name. -/
def unknown (α : Type) [Named α] (text : String) : String :=
  "unknown value '" ++ text ++ "', expected one of: "
    ++ ", ".intercalate ((all : List α).map name)

end Named

/-- How issues are shown. -/
inductive ReportFormat where
  | pretty
  | json
  /-- With the lines of the source around them. -/
  | fancy
  deriving DecidableEq, Repr

namespace ReportFormat

def name : ReportFormat → String
  | pretty => "pretty"
  | json => "json"
  | fancy => "fancy"

instance : Named ReportFormat := ⟨[pretty, json, fancy], name, pretty⟩

/-- How the log names a format. -/
def label : ReportFormat → String
  | pretty => "Pretty"
  | json => "Json"
  | fancy => "Fancy"

end ReportFormat

/-- What is printed for a program that was read without errors. -/
inductive OutputKind where
  | tree | tokens | json | nothing
  deriving DecidableEq, Repr

namespace OutputKind

def name : OutputKind → String
  | tree => "ast"
  | tokens => "tokens"
  | json => "json"
  | nothing => "none"

instance : Named OutputKind := ⟨[tree, tokens, json, nothing], name, tree⟩

def label : OutputKind → String
  | tree => "Ast"
  | tokens => "Tokens"
  | json => "Json"
  | nothing => "None"

end OutputKind

structure ReportOptions where
  format : Option ReportFormat
  color : Option Bool
  deriving DecidableEq, Repr

structure Options where
  diagnostics : ReportOptions
  output : Option OutputKind
  deriving DecidableEq, Repr

def ReportOptions.unset : ReportOptions := ⟨none, none⟩

namespace Options

def unset : Options := ⟨.unset, none⟩

def format (options : Options) : ReportFormat := options.diagnostics.format.getD Named.default

def outputKind (options : Options) : OutputKind := options.output.getD Named.default

/-- Whether to colour; where nothing is set, if the text goes to a terminal. -/
def color (options : Options) (toTerminal : Bool) : Bool :=
  options.diagnostics.color.getD toTerminal

/-- What is set in `upper`, and elsewhere what is set in `lower`. -/
def overlay (lower upper : Options) : Options where
  diagnostics.format := upper.diagnostics.format.or lower.diagnostics.format
  diagnostics.color := upper.diagnostics.color.or lower.diagnostics.color
  output := upper.output.or lower.output

def toJson (options : Options) : Json :=
  .object [
    ("diagnostics", .object [
      ("format", (options.diagnostics.format.map (Json.string ·.name)).getD .null),
      ("color", (options.diagnostics.color.map Json.bool).getD .null)]),
    ("output", (options.output.map (Json.string ·.name)).getD .null)]

/-- A setting as the log shows it. -/
def setting (label : Option String) : String :=
  match label with
  | some text => "Some(" ++ text ++ ")"
  | none => "None"

/-- The options as the log shows them. -/
def summary (options : Options) : String :=
  "EmberConfig \x7b diagnostics: DiagnosticsOptions \x7b format: "
    ++ setting (options.diagnostics.format.map ReportFormat.label)
    ++ ", color: "
    ++ setting (options.diagnostics.color.map fun color => if color then "true" else "false")
    ++ " \x7d, output: " ++ setting (options.output.map OutputKind.label) ++ " \x7d"

end Options

end ScriptFront
