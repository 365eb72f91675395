import EntityStore.Console.Local
import Std.Time.DateTime.Timestamp

/-!
# The program

The program reads the environment variables, the files that the command line names, the clock and a
source of random bytes, runs the command line on the database in memory and prints what comes of
it.  The database is empty at first and is gone when the command is over.
-/

namespace EntityStore.Console

/-- The variables that are set. -/
def readEnvironment : IO Environment :=
  Settings.variableNames.filterMapM fun name => do
    return (← IO.getEnv name).map fun value => (name, value)

/-- Why a file could not be read. -/
def fileErrorOf : IO.Error → FileError
  | .noFileOrDirectory .. => .missing
  | .inappropriateType .. => .directory
  | _ => .forbidden

/-- Reads one file. -/
def readFile (path : String) : IO FileContent := do
  try
    return .ok (← IO.FS.readBinFile path).toList
  catch e =>
    return .error (fileErrorOf e)

/-- Reads some files, all others being missing. -/
def readFiles (paths : List String) : IO FileSystem := do
  let contents ← paths.mapM fun path => do
    let path := normalPath path
    return (path, ← readFile path)
  return fun path => (contents.lookup path).getD (.error .missing)

/-- The database in memory at this moment. -/
def readState : IO LocalState := do
  let time := (← Std.Time.Timestamp.now).toNanosecondsSinceUnixEpoch.val
  let random := (← IO.getRandomBytes 10).toList.foldl (fun n b => n * 256 + b.toNat) 0
  return {
    clock := (DateTime.ofEpoch? time).getD ⟨⟨1970, 1, 1⟩, 0, 0, 0, 0, some 0⟩
    ids := { readings := [(time, random)] } }

/-- How the program is used. -/
def usageText : String :=
  unlines
    ["Usage: docstore [OPTIONS] COMMAND [ARGS]...",
     "Commands: compile, get, create, replace, delete, read-map, query, count"]

/-- Prints an outcome, or how the program is used. -/
def printOutcome (outcome : Outcome) : IO Unit := do
  IO.print outcome.output
  match outcome with
  | .misunderstood => IO.eprint usageText
  | _ => IO.eprint outcome.errors

end EntityStore.Console

/-- Runs a command line. -/
def main (arguments : List String) : IO UInt32 := do
  let environment ← EntityStore.Console.readEnvironment
  let invocation := EntityStore.Console.Invocation.parse? arguments
  let files ← EntityStore.Console.readFiles
    ((invocation.map (·.files environment)).getD [])
  let host := EntityStore.Console.Host.onMemory environment files
  let (outcome, _) := host.run arguments (← EntityStore.Console.readState)
  EntityStore.Console.printOutcome outcome
  return UInt32.ofNat outcome.exitCode
