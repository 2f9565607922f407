import Imageboard.Command.Run
import Imageboard.Store.Written

/-!
The command line of the board. It gathers what a command may look at, runs the command, and keeps
the tables that it leaves behind.
-/
namespace Imageboard.Command

/-- The number of the error for reading a directory. -/
def isDirectory : UInt32 := 21

/-- What is found at a path. -/
def entryAt (path : String) : IO Entry := do
  try
    let contents ← IO.FS.readBinFile path
    let bytes := contents.toList
    match (Text.decodeUtf8 bytes).toOption.bind Store.Tables.ofText? with
    | some _ => return if bytes.isEmpty then .file [] else .tables
    | none => return .file bytes
  catch error =>
    match error with
    | .noFileOrDirectory .. => return .missing
    | .inappropriateType _ code _ => return if code = isDirectory then .directory else .insideFile
    | _ => return .directory

/-- What is found at each of several paths. -/
def entriesAt (paths : List (List Char)) : IO (List (List Char × Entry)) :=
  paths.mapM fun path => return (path, ← entryAt (String.ofList path))

/-- The tables in a file, if they are there. -/
def tablesAt (path : List Char) : IO (List (List Char × Store.Tables)) := do
  try
    let text ← IO.FS.readFile (String.ofList path)
    match Store.Tables.ofText? text.toList with
    | some tables => return if text.isEmpty then [] else [(path, tables)]
    | none => return []
  catch _ => return []

/-- The variables of the environment that say something about settings. -/
def environment : IO (List (String × List Char)) :=
  Settings.Field.all.filterMapM fun field => do
    return (← IO.getEnv field.variableName).map fun value => (field.variableName, value.toList)

/-- The whole input, if a command reads it. -/
def inputFor (command : Command) : IO (List Char) := do
  if command.path? = some ['-'] then return (← (← IO.getStdin).readToEnd).toList
  return []

/-- The paths that a command may look at besides the file of the tables. -/
def pathsOf (command : Command) : List (List Char) :=
  Settings.fileName.toList :: command.path?.toList

/-- Looks a path up among what has been found. -/
def lookAmong (entries : List (List Char × Entry)) (path : List Char) : Entry :=
  (entries.lookup path).getD .missing

/-- The file in which a command keeps its tables. -/
def tablesPath? (surroundings : Surroundings) : Option (List Char) :=
  match ((loadSettings surroundings).run.run []).1 with
  | .error _ => none
  | .ok settings =>
    match Location.ofAddress settings.databaseUrl with
    | .ok (.file path) => some path
    | _ => none

/-- Runs a command, and gives its exit status. -/
def runCommand (command : Command) : IO UInt32 := do
  let entries ← entriesAt (pathsOf command)
  let surroundings : Surroundings :=
    ⟨lookAmong entries, ← environment, ← inputFor command⟩
  let path? := tablesPath? surroundings
  let databases ← match path? with
    | none => pure []
    | some path => tablesAt path
  let entries := entries ++ (← entriesAt (path?.toList ++ path?.toList.map Databases.parent))
  let (outcome, kept) := command.run { surroundings with look := lookAmong entries } databases
  for (path, tables) in kept do
    IO.FS.writeFile (String.ofList path) (String.ofList tables.write)
  let onTerminal ← (← IO.getStdout).isTty
  IO.print (String.ofList (if onTerminal then printed outcome else output outcome))
  let onTerminal ← (← IO.getStderr).isTty
  IO.eprint (String.ofList (if onTerminal then reported outcome else errorOutput outcome))
  return (exitStatus (some outcome)).toUInt32

end Imageboard.Command

/-- Runs the command that the arguments write. -/
def main (args : List String) : IO UInt32 := do
  match Imageboard.Command.read? (args.map String.toList) with
  | some command => command.runCommand
  | none =>
    IO.eprintln "Usage: boardpost init|thread|post|render|rules [OPTIONS] [ARGS]"
    return (Imageboard.Command.exitStatus none).toUInt32
