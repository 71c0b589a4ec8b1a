import CommitStore.CommandLine.Run
import CommitStore.Session.Archive
import Std.Time.DateTime.Timestamp
set_option autoImplicit false

/-!
# The program

The outer layer: it collects the variables, the time and the file of the store, runs the command
line, writes the store back and shows the text. Everything else is decided by `CommandLine.run`.
-/

namespace CommitStore
namespace Program

open CommandLine

/-- The variables that a command line looks at. -/
def variableNames : List String := ["COLUMNS", "LINES", "BRANCHKEEP_DB", "BRANCHKEEP_MAIN_BRANCH"]

/-- The values of the variables that are set. -/
def readVariables : IO (List (String × String)) :=
  variableNames.filterMapM fun name => return (← IO.getEnv name).map ((name, ·))

/-- The current time. -/
def currentInstant : IO Instant :=
  return ⟨(← Std.Time.Timestamp.now).toNanosecondsSinceUnixEpoch.toInt / 1000⟩

/-- The path of the store that a command line asks for. -/
def requestedPath? (getVariable : String → Option String) (args : List String) : Option String :=
  match readRequest getVariable args with
  | .ok (.perform settings _) => some settings.path
  | _ => none

/-- What is at a path. -/
def locate (path : String) : IO Located :=
  try
    return ((Archive.read? (← IO.FS.readFile path)).map Located.store).getD .unreadable
  catch
    | .noFileOrDirectory .. => return .nothing
    | _ => return .unreadable

/-- Runs the program, and answers its exit code. -/
def run (args : List String) : IO UInt32 := do
  let known ← readVariables
  let getVariable (name : String) : Option String := known.lookup name
  let located ← match requestedPath? getVariable args with
    | some path => locate path
    | none => pure .nothing
  let outcome := CommandLine.run getVariable (← currentInstant) (fun _ => located) args
  if let some (path, tables) := outcome.left then
    IO.FS.writeFile path (Archive.write tables)
  IO.print outcome.output
  return outcome.exitCode.toUInt32

end Program
end CommitStore

/-- The command line program. -/
def main (args : List String) : IO UInt32 := CommitStore.Program.run args
