import ScriptFront.Json.Record
import ScriptFront.Options.Basic

/-!
# Reading options

Options are read from JSON. A member `output` and a member `diagnostics` with `format` and `color`
are known; what is missing or `null` is not set.
-/
namespace ScriptFront

/-- A setting that is one of the names of a type, or `null`. -/
def readNamed (α : Type) [Named α] : Json.Reader (Option α) :=
  .optional (.choice ((Named.all : List α).map fun value => (Named.name value, value)))

def ReportOptions.fields : List (Json.Field ReportOptions) :=
  [{ name := "format"
     optional := false
     read := do
      let format ← readNamed ReportFormat
      return fun options => { options with format } },
    { name := "color"
      optional := false
      read := do
        let color ← Json.Reader.optional .boolean
        return fun options => { options with color } }]

def ReportOptions.reader : Json.Reader ReportOptions :=
  .record "struct DiagnosticsOptions" fields .unset

namespace Options

def fields : List (Json.Field Options) :=
  [{ name := "diagnostics"
     optional := true
     read := do
      let diagnostics ← ReportOptions.reader
      return fun options => { options with diagnostics } },
    { name := "output"
      optional := false
      read := do
        let output ← readNamed OutputKind
        return fun options => { options with output } }]

def reader : Json.Reader Options := .record "struct EmberConfig" fields unset

/-- The options that a text holds. -/
def ofText (text : String) : Except Json.PlacedFault Options := Json.read reader text

end Options

end ScriptFront
