import Coll.Session.Run

/-!
The program. It gathers what the run needs from the machine, and writes what the run leaves behind.
-/

namespace Coll

open Storage (Entry Failure)

/-- What a path leads to on this machine. -/
def look (path : String) : IO (Except Failure Entry) := do
  try
    if ← (← IO.FS.realPath path).isDir then return .ok .directory
    return .ok (.file (← IO.FS.readBinFile path))
  catch
    | .noFileOrDirectory .. => return .error .missing
    | .inappropriateType .. => return .error .notDirectory
    | .invalidArgument _ 36 _ => return .error .nameTooLong
    | failure => return .error (.other (toString failure))

/-- Reads standard input to its end. -/
def readInput : IO Reads := do
  try
    return [.data (← (← IO.getStdin).readBinToEnd).data.toList]
  catch failure => return [.failure (toString failure)]

/-- The environment variables that the program looks at. -/
def variableNames : List String :=
  ["COLLC_VERBOSE", "COLLC_CONFIG", "COLLC_NO_COLOR", "COLLC_LOG"]

/-- The program with the given arguments. -/
def runProgram (arguments : List String) : IO UInt32 := do
  let environment ← variableNames.filterMapM fun name => do
    return (← IO.getEnv name).map (name, ·)
  let home ← IO.getEnv "HOME"
  let configuration ← IO.getEnv "XDG_CONFIG_HOME"
  let request := CommandLine.request (environment.lookup ·) arguments
  let files := (request.toOption.map (Session.filesNeeded home configuration)).getD []
  let entries ← files.mapM fun path => do return (path, ← look path)
  let input ← if request.toOption.any Session.needsInput then readInput else pure []
  let outcome := Session.run {
    arguments
    environment := (environment.lookup ·)
    storage := fun path => (entries.lookup path).getD (.error .missing)
    input
    home
    configuration
    time := toString (← IO.monoMsNow) }
  (← IO.getStdout).putStr outcome.output
  (← IO.getStderr).putStr outcome.errors
  return outcome.exitCode.toUInt32

end Coll

def main (arguments : List String) : IO UInt32 := Coll.runProgram arguments
