import ScriptFront.Host.Error
import ScriptFront.Host.Files
import ScriptFront.Host.Log
import ScriptFront.Options.Reading

/-!
# Loading options

Options come from a file that was asked for, which must then exist, or else from the options file of
the directory, if there is one. Together with the options comes what the log says about them.
-/
namespace ScriptFront.Options

/-- The options in a file. -/
def ofFile (read : FileReader) (path : String) : Except HostError Options :=
  match read path with
  | .error fault => .error (.unreadable path fault.message)
  | .ok text =>
    match ofText text with
    | .error fault => .error (.badOptions path fault.message)
    | .ok options => .ok options

def loadFile (read : FileReader) (path : String) : List LogRecord × Except HostError Options :=
  match ofFile read path with
  | .ok options => ([.optionsLoaded path], .ok options)
  | .error reason => ([], .error reason)

def load (read : FileReader) (asked : Option String) (directory : String) :
    List LogRecord × Except HostError Options :=
  match asked with
  | some path => loadFile read path
  | none =>
    let path := joinPath directory optionsFileName
    if read.isFile path then loadFile read path
    else ([.optionsAbsent directory], .ok unset)

end ScriptFront.Options
