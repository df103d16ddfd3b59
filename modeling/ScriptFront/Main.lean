import ScriptFront.Command.Run

/-!
# The command

Reads the files that a command line names, runs it on them, and writes what comes of it.
-/
namespace ScriptFront

/-- The number by which the system says that a path leads to a directory. -/
def isDirectoryCode : UInt32 := 21

/-- The number by which the system says that a name or a path is too long. -/
def nameTooLongCode : UInt32 := 36

/-- What the system says is wrong with a path. -/
def ReadFault.ofError : IO.Error → ReadFault
  | .noFileOrDirectory .. => .notFound
  | .inappropriateType _ code _ => if code = isDirectoryCode then .isDirectory else .notDirectory
  | reason@(.invalidArgument _ code _) =>
    if code = nameTooLongCode then .nameTooLong else .other reason.toString
  | reason => .other reason.toString

/-- The text of a file, or why it cannot be read. -/
def readText (path : String) : IO (Except ReadFault String) := do
  if hasZero path then return .error .zeroInName
  try
    let bytes ← IO.FS.readBinFile path
    match String.fromUTF8? bytes with
    | some text => return .ok text
    | none => return .error .invalidText
  catch reason => return .error (.ofError reason)

def workingDirectory : IO WorkingDirectory := do
  try return .ok (← IO.currentDir).toString
  catch reason => return .error (ReadFault.ofError reason).message

/-- Whether there is an options file in the working directory. -/
def hasOptionsFile : IO Bool := do
  try
    match (← ((← IO.currentDir) / optionsFileName).metadata).type with
    | .file => return true
    | _ => return false
  catch _ => return false

/-- Thousandths of a millisecond as milliseconds with two places. -/
def millisecondText (microseconds : Nat) : String :=
  let hundredths := (microseconds + 5) / 10
  let places := toString (hundredths % 100)
  toString (hundredths / 100) ++ "." ++ (if places.length < 2 then "0" else "") ++ places

/-- Runs an invocation and measures the time it takes. -/
def runMeasured (invocation : Invocation) : IO Outcome := do
  let directory ← workingDirectory
  let paths := (directory.map invocation.paths).toOption.getD []
  let texts ← paths.mapM fun path => return (path, ← readText path)
  let isFile ← hasOptionsFile
  let surroundings : Surroundings :=
    { directory
      read :=
        { text := fun path => (texts.lookup path).getD (.error .notFound)
          isFile := fun _ => isFile }
      logSpec := ← IO.getEnv "RUST_LOG"
      terminal := ← (← IO.getStderr).isTty }
  let started ← IO.monoNanosNow
  let report ← IO.lazyPure fun _ => invocation.run surroundings
  let ended ← IO.monoNanosNow
  let (filter, warnings) := invocation.logFilter surroundings
  return report.outcome filter warnings (millisecondText ((ended - started) / 1000))

end ScriptFront

open ScriptFront in
def main (arguments : List String) : IO UInt32 := do
  match CommandLine.ofArguments arguments with
  | .error fault =>
    (← IO.getStderr).putStr ("error: " ++ fault.message ++ "\n")
    return 2
  | .ok .version =>
    (← IO.getStdout).putStr versionText
    return 0
  | .ok (.run invocation) =>
    let outcome ← runMeasured invocation
    (← IO.getStdout).putStr outcome.output
    (← IO.getStderr).putStr outcome.errors
    return UInt32.ofNat outcome.exitCode
