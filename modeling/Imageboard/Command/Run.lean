import Imageboard.Command.Arguments
import Imageboard.Command.Report

/-!
Running commands. A command loads the settings, reads its post, opens the tables and does its work;
where it stops short, the tables keep their rows.
-/
namespace Imageboard.Command
open Store (Tables)

/-- What a command finds around it: the entries at paths, the environment, and the input. -/
structure Surroundings where
  look : List Char → Entry
  environment : List (String × List Char)
  input : List Char

/-- Commands work on the files with tables. -/
abbrev Work := ExceptT Stop (StateM Databases)

/-- Stops with a report, or breaks off if the failure is not foreseen. -/
def stop {α : Type} (isForeseen : Bool) (message : String) (cause : Option String)
    (breakdown : Breakdown) : Work α :=
  throw <|
    if isForeseen then .report message.toList (cause.map String.toList) else .breakdown breakdown

/-- The text of the file with the settings, if it is there. -/
def settingsText (s : Surroundings) : Work (Option (List Char)) := do
  match s.look Settings.fileName.toList with
  | .missing => return none
  | .file contents =>
    match Text.decodeUtf8 contents with
    | .ok text => return some text
    | .error failure => stop true failure.message none .settingsFile
  | .tables => stop true "stored tables are no text" none .settingsFile
  | .directory | .insideFile => stop false "" none .settingsFile

/-- Loads the settings. -/
def loadSettings (s : Surroundings) : Work Settings := do
  match Settings.load ⟨← settingsText s, s.environment, []⟩ with
  | .ok settings => return settings
  | .error failure => stop failure.isForeseen failure.message none (.settings failure)

/-- What the system says about a path that cannot be read. -/
def systemMessage (number : Nat) (words : String) (path : List Char) : List Char :=
  s!"[Errno {number}] {words}: ".toList ++ Text.quoted (shownPath path)

/-- Reports a path that cannot be read. -/
def cannotRead {α : Type} (path : List Char) (number : Nat) (words : String) : Work α :=
  throw (.report ("Could not read ".toList ++ path) (some (systemMessage number words path)))

/-- Reads a post. -/
def readBody (s : Surroundings) (path : List Char) : Work (List Char) := do
  if path = ['-'] then return Text.universalNewlines s.input
  match s.look path with
  | .missing => cannotRead path 2 "No such file or directory"
  | .insideFile => cannotRead path 20 "Not a directory"
  | .directory => cannotRead path 21 "Is a directory"
  | .tables => throw (.breakdown .tablesAsBody)
  | .file contents =>
    match Text.decodeUtf8 contents with
    | .ok text => return Text.universalNewlines text
    | .error failure => throw (.breakdown (.body failure))

/-- A step that can fail because of the location of the tables. -/
def located {α : Type} (found : Except LocationFault α) : Work α :=
  match found with
  | .ok a => return a
  | .error fault => throw (.breakdown (.location fault))

/-- Opens the tables at an address, creating them if there are none. -/
def openTables (s : Surroundings) (address : List Char) : Work (Location × Tables) := do
  let location ← located (Location.ofAddress address)
  let tables ← located ((← get).tables s.look location)
  modify (·.keep tables location)
  return (location, tables)

/-- Does something that the store may refuse. -/
def submitted {α : Type} (message : String) (run : ExceptT Store.Failure Noted α) : Work α :=
  match (run.run.run []).1 with
  | .ok a => return a
  | .error failure =>
    stop failure.isForeseen message (some (failure.message?.getD "")) (.store failure)

/-- A line of output. -/
def line (parts : List (List Char)) : List Char := parts.flatten ++ ['\n']

/-- The decimal digits of a number. -/
def decimal (n : Nat) : List Char := Nat.toDigits 10 n

def runInit (s : Surroundings) (reset : Bool) : Work (List Char) := do
  let settings ← loadSettings s
  let (location, _) ← openTables s settings.databaseUrl
  if reset then modify (·.keep .empty location)
  return (if reset then line ["Existing data cleared.".toList] else []) ++
    line ["Database initialized at: ".toList, settings.databaseUrl]

/-- The line about a new row and the address of its post. -/
def createdLine (what : String) (id : Nat) (tables : Tables) (post : Nat) : List Char :=
  line [s!"Created {what} #".toList, decimal id, ": ".toList, (tables.address? post).getD []]

def runThread (s : Surroundings) (board path : List Char) : Work (List Char) := do
  let settings ← loadSettings s
  let raw ← readBody s path
  let (location, tables) ← openTables s settings.databaseUrl
  let (tables, threadRow, postRow) ← submitted "Post rejected"
    (Store.submitThread (some tables) board raw settings.filterRules)
  modify (·.keep tables location)
  return createdLine "thread" threadRow.id tables postRow.id

def runPost (s : Surroundings) (number : Int) (path : List Char) : Work (List Char) := do
  let settings ← loadSettings s
  let raw ← readBody s path
  let (location, tables) ← openTables s settings.databaseUrl
  let (tables, postRow) ← submitted "Post rejected"
    (Store.submitPost (some tables) number raw settings.filterRules)
  modify (·.keep tables location)
  return createdLine "post" postRow.id tables postRow.id

def runRender (s : Surroundings) (path : List Char) (resolve : Bool) : Work (List Char) := do
  let settings ← loadSettings s
  let raw ← readBody s path
  let lookup : Markup.Lookup Noted ←
    if resolve then
      let (_, tables) ← openTables s settings.databaseUrl
      pure (Store.lookup (some tables))
    else pure Post.noLookup
  let html ← submitted "Could not parse post"
    (ExceptT.adapt Store.Failure.rejected (Post.render settings.filterRules lookup raw))
  return line [html]

/-- The line about a rule. -/
def ruleLine (rule : Rule) (number : Nat) : List Char :=
  line ["  ".toList, decimal number, ". ".toList, Text.quoted rule.pattern, " -> ".toList,
    Text.quoted rule.replacement]

def runRules (s : Surroundings) : Work (List Char) := do
  let rules := (← loadSettings s).filterRules
  if rules = [] then return line ["No filter rules configured.".toList]
  let lines := rules.zipIdx.flatMap fun (rule, index) => ruleLine rule (index + 1)
  return lines ++ line [decimal rules.length, " rule(s) OK".toList]

/-- The work of a command. -/
def work (s : Surroundings) : Command → Work (List Char)
  | .init reset => runInit s reset
  | .thread board path => runThread s board path
  | .post number path => runPost s number path
  | .render path resolve => runRender s path resolve
  | .rules => runRules s

/-- Runs a command on the files with tables. -/
def run (command : Command) (s : Surroundings) (databases : Databases) : Outcome × Databases :=
  (command.work s).run.run databases

/-- A call of the command line: its arguments and its input. -/
structure Call where
  arguments : List (List Char)
  input : List Char
deriving DecidableEq, Repr

/-- Answers a call in a directory. Arguments that write no command change nothing. -/
def Call.answer (call : Call) (directory : Directory) (environment : List (String × List Char))
    (databases : Databases) : Option Outcome × Databases :=
  match read? call.arguments with
  | none => (none, databases)
  | some command =>
    let (outcome, databases) :=
      command.run ⟨databases.look directory, environment, call.input⟩ databases
    (some outcome, databases)

/-- Answers calls in turn. -/
def answerAll (directory : Directory) (environment : List (String × List Char)) :
    List Call → Databases → List (Option Outcome) × Databases
  | [], databases => ([], databases)
  | call :: others, databases =>
    let (outcome, databases) := call.answer directory environment databases
    let (outcomes, databases) := answerAll directory environment others databases
    (outcome :: outcomes, databases)

end Imageboard.Command
