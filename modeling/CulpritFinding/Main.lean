import CulpritFinding.CommandLine.Run
import CulpritFinding.Json.Printer
import Std.Time.DateTime.Timestamp

namespace CulpritFinding.CommandLine

def usage : String := "usage: culprit [--config FILE] [--print-metrics] COMMAND [OPTIONS]
  analyze --fixture FILE --project NAME --builder NAME --build NUMBER --kind compile|test
  identify-culprit --report FILE [--kind compile|test]
  aggregate-flakes --occurrences FILE [--now TIME]
  migrate --database-url URL"

def readVariables : IO Variables := do
  let names := Variables.all ++ ["DATABASE_URL"]
  let values ← names.mapM fun name => do return (name, ← IO.getEnv name)
  return fun name => (values.find? fun v => v.1 = name).bind (·.2)

def readText? (path : String) : IO (Option String) := do
  try return some (← IO.FS.readFile path)
  catch _ => return none

def readClock : IO Instant := do
  return .ofCount (← Std.Time.Timestamp.now).toNanosecondsSinceUnixEpoch.val

def readSurroundings (args : List String) : IO Surroundings := do
  let env ← readVariables
  let paths := match Invocation.parse env args with
    | .ok invocation => invocation.files
    | .error _ => []
  let texts ← paths.mapM fun path => do return (path, ← readText? path)
  return {
    env
    fileText := fun path => (texts.find? fun t => t.1 = path).bind (·.2)
    now := ← readClock
    freshGroupId := .ofRandom ((← IO.getRandomBytes 16).toList.map UInt8.toNat) }

def Outcome.print : Outcome → IO Unit
  | printed value events => do
    IO.println value.pretty
    events.forM fun event => IO.println event.summary
  | help => IO.println usage
  | misused reason => do
    IO.eprintln reason
    IO.eprintln usage
  | failed reason => IO.eprintln reason
  | stopped => IO.eprintln "time out of range"

def runProgram (args : List String) : IO UInt32 := do
  let outcome := run (← readSurroundings args) args
  outcome.print
  return outcome.exitCode

end CulpritFinding.CommandLine

def main (args : List String) : IO UInt32 := CulpritFinding.CommandLine.runProgram args
