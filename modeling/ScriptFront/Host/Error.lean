/-!
# Host errors

What can go wrong around the reading of sources: files, options and output. A fault in a source is
never one of these; it is an issue.

A run is taken to write its output without a fault, and programs and issues always have a text in
JSON. So no run comes to `unwritten`, and to `inputOutput` only if it has no working directory.
-/
namespace ScriptFront

inductive HostError where
  /-- A file could not be read, for the given reason. -/
  | unreadable (path reason : String)
  | badOptions (path reason : String)
  | unwritten (reason : String)
  | inputOutput (reason : String)
  deriving DecidableEq, Repr

namespace HostError

def message : HostError → String
  | unreadable path reason => "failed to read '" ++ path ++ "': " ++ reason
  | badOptions path reason => "invalid configuration in '" ++ path ++ "': " ++ reason
  | unwritten reason => "failed to serialize output: " ++ reason
  | inputOutput reason => reason

/-- The error behind this one, where there is one that the message does not stand for itself. -/
def source : HostError → Option String
  | unreadable _ reason => some reason
  | badOptions .. | unwritten _ | inputOutput _ => none

end HostError

end ScriptFront
