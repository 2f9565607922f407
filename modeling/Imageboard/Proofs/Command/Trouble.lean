import Imageboard.Proofs.Command.Work
import Imageboard.Proofs.Text.Control

/-!
Trouble in the body of a command. The commands are said once more without any of the places at which
they make something of trouble; each comes to the same with one such place around the whole of it.
So whatever trouble is foreseen is reported wherever it arises, but for a post that cannot be decoded.
-/
namespace Imageboard.Command
open Store (Tables)

/-! ## Commands that only raise trouble -/

/-- Trouble as it arises: the settings or the post cannot be read, the settings or the address of
the tables are no good, or the store refuses. -/
inductive Trouble where
  | settingsBytes (failure : Text.DecodeFailure)
  | settingsTables
  | settingsEntry
  | settings (failure : Settings.Failure)
  | postEntry (path : List Char) (number : Nat) (words : String)
  | postBytes (failure : Text.DecodeFailure)
  | postTables
  | location (fault : LocationFault)
  | store (failure : Store.Failure)
deriving DecidableEq, Repr

/-- Work that raises trouble and makes nothing of it. -/
abbrev Bare := ExceptT Trouble (StateM Databases)

section
variable (s : Surroundings)

def bareSettingsText : Bare (Option (List Char)) := do
  match s.look Settings.fileName.toList with
  | .missing => return none
  | .file contents =>
    match Text.decodeUtf8 contents with
    | .ok text => return some text
    | .error failure => throw (.settingsBytes failure)
  | .tables => throw .settingsTables
  | .directory | .insideFile => throw .settingsEntry

def bareSettings : Bare Settings := do
  match Settings.load ⟨← bareSettingsText s, s.environment, []⟩ with
  | .ok settings => return settings
  | .error failure => throw (.settings failure)

def bareBody (path : List Char) : Bare (List Char) := do
  if path = ['-'] then return Text.universalNewlines s.input
  match s.look path with
  | .missing => throw (.postEntry path 2 "No such file or directory")
  | .insideFile => throw (.postEntry path 20 "Not a directory")
  | .directory => throw (.postEntry path 21 "Is a directory")
  | .tables => throw .postTables
  | .file contents =>
    match Text.decodeUtf8 contents with
    | .ok text => return Text.universalNewlines text
    | .error failure => throw (.postBytes failure)

def bareLocated {α : Type} (found : Except LocationFault α) : Bare α :=
  match found with
  | .ok a => return a
  | .error fault => throw (.location fault)

def bareTables (address : List Char) : Bare (Location × Tables) := do
  let location ← bareLocated (Location.ofAddress address)
  let tables ← bareLocated ((← get).tables s.look location)
  modify (·.keep tables location)
  return (location, tables)

def bareSubmitted {α : Type} (run : ExceptT Store.Failure Noted α) : Bare α :=
  match (run.run.run []).1 with
  | .ok a => return a
  | .error failure => throw (.store failure)

def bareInit (reset : Bool) : Bare (List Char) := do
  let settings ← bareSettings s
  let (location, _) ← bareTables s settings.databaseUrl
  if reset then modify (·.keep .empty location)
  return (if reset then line ["Existing data cleared.".toList] else []) ++
    line ["Database initialized at: ".toList, settings.databaseUrl]

def bareThread (board path : List Char) : Bare (List Char) := do
  let settings ← bareSettings s
  let raw ← bareBody s path
  let (location, tables) ← bareTables s settings.databaseUrl
  let (tables, threadRow, postRow) ←
    bareSubmitted (Store.submitThread (some tables) board raw settings.filterRules)
  modify (·.keep tables location)
  return createdLine "thread" threadRow.id tables postRow.id

def barePost (number : Int) (path : List Char) : Bare (List Char) := do
  let settings ← bareSettings s
  let raw ← bareBody s path
  let (location, tables) ← bareTables s settings.databaseUrl
  let (tables, postRow) ←
    bareSubmitted (Store.submitPost (some tables) number raw settings.filterRules)
  modify (·.keep tables location)
  return createdLine "post" postRow.id tables postRow.id

def bareRender (path : List Char) (resolve : Bool) : Bare (List Char) := do
  let settings ← bareSettings s
  let raw ← bareBody s path
  let lookup : Markup.Lookup Noted ←
    if resolve then
      let (_, tables) ← bareTables s settings.databaseUrl
      pure (Store.lookup (some tables))
    else pure Post.noLookup
  let html ← bareSubmitted
    (ExceptT.adapt Store.Failure.rejected (Post.render settings.filterRules lookup raw))
  return line [html]

def bareRules : Bare (List Char) := do
  let rules := (← bareSettings s).filterRules
  if rules = [] then return line ["No filter rules configured.".toList]
  let lines := rules.zipIdx.flatMap fun (rule, index) => ruleLine rule (index + 1)
  return lines ++ line [decimal rules.length, " rule(s) OK".toList]

/-- The body of a command. -/
def body : Command → Bare (List Char)
  | .init reset => bareInit s reset
  | .thread board path => bareThread s board path
  | .post number path => barePost s number path
  | .render path resolve => bareRender s path resolve
  | .rules => bareRules s

end

/-! ## What is made of trouble -/

/-- What a command says of a text that the store refuses. -/
def refusalMessage : Command → String
  | .render _ _ => "Could not parse post"
  | _ => "Post rejected"

/-- How trouble stops a command that says the given words of a refusal. -/
def Trouble.stop (message : String) : Trouble → Stop
  | .settingsBytes failure => .report failure.message.toList none
  | .settingsTables => .report "stored tables are no text".toList none
  | .settingsEntry => .breakdown .settingsFile
  | .settings failure =>
    if failure.isForeseen then .report failure.message.toList none
    else .breakdown (.settings failure)
  | .postEntry path number words =>
    .report ("Could not read ".toList ++ path) (some (systemMessage number words path))
  | .postBytes failure => .breakdown (.body failure)
  | .postTables => .breakdown .tablesAsBody
  | .location fault => .breakdown (.location fault)
  | .store failure => storeStop message failure

/-- Work is bare work with one place around it at which something is made of trouble. -/
def Handles (message : String) {α : Type} (handled : Work α) (bare : Bare α) : Prop :=
  handled = ExceptT.adapt (Trouble.stop message) bare

section
variable {message : String} {α β : Type}

theorem handles_pure (a : α) : Handles message (pure a) (pure a) := (adapt_pure _ a).symm

theorem handles_throw {stop : Stop} {trouble : Trouble} (h : trouble.stop message = stop) :
    Handles message (throw stop : Work α) (throw trouble) := by
  rw [← h]
  rfl

theorem handles_lift (x : StateM Databases α) :
    Handles message (ExceptT.lift x) (ExceptT.lift x) :=
  (adapt_lift _ x).symm

theorem Handles.bind {handled : Work α} {bare : Bare α} {f : α → Work β} {g : α → Bare β}
    (hx : Handles message handled bare) (hf : ∀ a, Handles message (f a) (g a)) :
    Handles message (handled >>= f) (bare >>= g) := by
  rw [Handles, adapt_bind, ← hx]
  exact bind_congr hf

end

section
variable (s : Surroundings) (message : String)

theorem handles_settingsText : Handles message (settingsText s) (bareSettingsText s) := by
  unfold settingsText bareSettingsText
  cases s.look Settings.fileName.toList with
  | missing => exact handles_pure none
  | file contents =>
      dsimp only
      cases Text.decodeUtf8 contents with
      | ok text => exact handles_pure (some text)
      | error failure => exact handles_throw rfl
  | tables => exact handles_throw rfl
  | directory => exact handles_throw rfl
  | insideFile => exact handles_throw rfl

theorem handles_loadSettings : Handles message (loadSettings s) (bareSettings s) := by
  refine (handles_settingsText s message).bind fun text => ?_
  cases Settings.load ⟨text, s.environment, []⟩ with
  | ok settings => exact handles_pure settings
  | error failure => exact handles_throw rfl

theorem handles_readBody (path : List Char) :
    Handles message (readBody s path) (bareBody s path) := by
  unfold readBody bareBody
  by_cases hinput : path = ['-']
  · rw [if_pos hinput, if_pos hinput]
    exact handles_pure _
  rw [if_neg hinput, if_neg hinput]
  cases s.look path with
  | missing => exact handles_throw rfl
  | insideFile => exact handles_throw rfl
  | directory => exact handles_throw rfl
  | tables => exact handles_throw rfl
  | file contents =>
      dsimp only
      cases Text.decodeUtf8 contents with
      | ok text => exact handles_pure _
      | error failure => exact handles_throw rfl

theorem handles_located {α : Type} (found : Except LocationFault α) :
    Handles message (located found) (bareLocated found) := by
  cases found with
  | ok a => exact handles_pure a
  | error fault => exact handles_throw rfl

theorem handles_openTables (address : List Char) :
    Handles message (openTables s address) (bareTables s address) := by
  refine (handles_located message _).bind fun location => ?_
  refine (handles_lift get).bind fun databases => ?_
  refine (handles_located message _).bind fun tables => ?_
  exact (handles_lift (modify (·.keep tables location))).bind fun _ => handles_pure _

theorem handles_submitted {α : Type} (run : ExceptT Store.Failure Noted α) :
    Handles message (submitted message run) (bareSubmitted run) := by
  unfold submitted bareSubmitted
  cases (run.run.run []).1 with
  | ok a => exact handles_pure a
  | error failure => exact handles_throw rfl

end

section
variable (s : Surroundings)

theorem handles_runInit (message : String) (reset : Bool) :
    Handles message (runInit s reset) (bareInit s reset) := by
  refine (handles_loadSettings s message).bind fun settings => ?_
  refine (handles_openTables s message _).bind fun (location, _) => ?_
  cases reset with
  | true => exact (handles_lift (modify (·.keep .empty location))).bind fun _ => handles_pure _
  | false => exact handles_pure _

theorem handles_runThread (board path : List Char) :
    Handles "Post rejected" (runThread s board path) (bareThread s board path) := by
  refine (handles_loadSettings s _).bind fun settings => ?_
  refine (handles_readBody s _ path).bind fun raw => ?_
  refine (handles_openTables s _ _).bind fun (location, tables) => ?_
  refine (handles_submitted _ _).bind fun (tables, threadRow, postRow) => ?_
  exact (handles_lift (modify (·.keep tables location))).bind fun _ => handles_pure _

theorem handles_runPost (number : Int) (path : List Char) :
    Handles "Post rejected" (runPost s number path) (barePost s number path) := by
  refine (handles_loadSettings s _).bind fun settings => ?_
  refine (handles_readBody s _ path).bind fun raw => ?_
  refine (handles_openTables s _ _).bind fun (location, tables) => ?_
  refine (handles_submitted _ _).bind fun (tables, postRow) => ?_
  exact (handles_lift (modify (·.keep tables location))).bind fun _ => handles_pure _

theorem handles_runRender (path : List Char) (resolve : Bool) :
    Handles "Could not parse post" (runRender s path resolve) (bareRender s path resolve) := by
  refine (handles_loadSettings s _).bind fun settings => ?_
  refine (handles_readBody s _ path).bind fun raw => ?_
  cases resolve with
  | true =>
      refine (handles_openTables s _ _).bind fun (_, tables) => ?_
      exact (handles_submitted _ _).bind fun html => handles_pure _
  | false => exact (handles_submitted _ _).bind fun html => handles_pure _

theorem handles_runRules (message : String) : Handles message (runRules s) (bareRules s) := by
  refine (handles_loadSettings s message).bind fun settings => ?_
  dsimp only
  split
  · exact handles_pure _
  · exact handles_pure _

/-- The places at which a command makes something of trouble come to one around its body. -/
theorem work_eq (command : Command) :
    command.work s = ExceptT.adapt (Trouble.stop command.refusalMessage) (command.body s) := by
  cases command with
  | init reset => exact handles_runInit s _ reset
  | thread board path => exact handles_runThread s board path
  | post number path => exact handles_runPost s number path
  | render path resolve => exact handles_runRender s path resolve
  | rules => exact handles_runRules s _

end

/-! ## The trouble of a call -/

/-- Trouble that is foreseen: what was given is no good. The places where things are kept are not
given. -/
def Trouble.isForeseen : Trouble → Bool
  | .settingsBytes _ | .settingsTables | .postBytes _ | .postTables => true
  | .settings failure => failure.isForeseen
  | .store failure => failure.isForeseen
  | .settingsEntry | .postEntry .. | .location _ => false

/-- A post whose bytes are no text. -/
def Trouble.isUndecodable : Trouble → Bool
  | .postBytes _ | .postTables => true
  | _ => false

/-- A post that is not to be had. -/
def Trouble.isUnreadable : Trouble → Bool
  | .postEntry .. => true
  | _ => false

/-- What a command comes to if nothing is made of trouble. -/
def bareRun (command : Command) (s : Surroundings) (databases : Databases) :
    Except Trouble (List Char) × Databases :=
  (command.body s).run.run databases

/-- The trouble in the body of the command that a call asks for. -/
def Call.trouble? (call : Call) (directory : Directory) (environment : List (String × List Char))
    (databases : Databases) : Option Trouble :=
  match read? call.arguments with
  | none => none
  | some command =>
    match (command.bareRun ⟨databases.look directory, environment, call.input⟩ databases).1 with
    | .ok _ => none
    | .error trouble => some trouble

theorem run_eq (command : Command) (s : Surroundings) (databases : Databases) :
    command.run s databases =
      ((command.bareRun s databases).1.mapError (Trouble.stop command.refusalMessage),
        (command.bareRun s databases).2) := by
  rw [run, work_eq, bareRun]
  rfl

/-- A command that reports: nothing is printed, and a line says that there is an error. -/
def Reports (outcome : Outcome) : Prop :=
  printed outcome = [] ∧ output outcome = [] ∧ "Error: ".toList <+: reported outcome ∧
    "Error: ".toList <+: errorOutput outcome

theorem error_notMem_escape : '\x1b' ∉ "Error: ".toList := by decide

theorem reports (message : List Char) (cause : Option (List Char)) :
    Reports (.error (.report message cause)) := by
  obtain ⟨rest, hrest⟩ : ∃ rest, reportText message cause = "Error: ".toList ++ rest :=
    ⟨_, List.append_assoc _ _ _⟩
  refine ⟨rfl, Text.withoutControls_nil, ?_, ?_⟩
  · rw [reported, hrest]
    exact List.prefix_append _ _
  · rw [errorOutput, reported, hrest, Text.withoutControls_append error_notMem_escape]
    exact List.prefix_append _ _

theorem not_reports_breakdown (breakdown : Breakdown) :
    ¬ Reports (.error (.breakdown breakdown)) := by
  rintro ⟨-, -, hreported, -⟩
  have hempty : reported (.error (.breakdown breakdown)) = [] := rfl
  rw [hempty, List.prefix_nil] at hreported
  exact absurd hreported (by decide)

theorem Trouble.reports_stop_iff (message : String) (trouble : Trouble) :
    Reports (.error (trouble.stop message)) ↔
      (trouble.isForeseen = true ∧ trouble.isUndecodable = false) ∨ trouble.isUnreadable = true := by
  cases trouble with
  | settingsBytes failure => exact iff_of_true (reports _ _) (.inl ⟨rfl, rfl⟩)
  | settingsTables => exact iff_of_true (reports _ _) (.inl ⟨rfl, rfl⟩)
  | settingsEntry => exact iff_of_false (not_reports_breakdown _) (by decide)
  | settings failure =>
      rw [stop, isForeseen]
      cases failure.isForeseen with
      | true => exact iff_of_true (reports _ _) (.inl ⟨rfl, rfl⟩)
      | false => exact iff_of_false (not_reports_breakdown _) (by simp [isUnreadable])
  | postEntry path number words => exact iff_of_true (reports _ _) (.inr rfl)
  | postBytes failure =>
      exact iff_of_false (not_reports_breakdown _) (by simp [isUndecodable, isUnreadable])
  | postTables => exact iff_of_false (not_reports_breakdown _) (by decide)
  | location fault =>
      exact iff_of_false (not_reports_breakdown _) (by simp [isForeseen, isUnreadable])
  | store failure =>
      rw [stop, storeStop, isForeseen]
      cases failure.isForeseen with
      | true => exact iff_of_true (reports _ _) (.inl ⟨rfl, rfl⟩)
      | false => exact iff_of_false (not_reports_breakdown _) (by simp [isUnreadable])

section
variable (call : Call) (directory : Directory) (environment : List (String × List Char))
  (databases : Databases)

theorem Call.answer_of_trouble?_eq_some {trouble : Trouble}
    (h : call.trouble? directory environment databases = some trouble) :
    ∃ message, (call.answer directory environment databases).1 =
      some (.error (trouble.stop message)) := by
  unfold Call.trouble? at h
  unfold Call.answer
  cases hread : read? call.arguments with
  | none =>
      rw [hread] at h
      cases h
  | some command =>
      rw [hread] at h
      dsimp only at h ⊢
      rw [run_eq]
      cases hbare : (command.bareRun ⟨databases.look directory, environment, call.input⟩
          databases).1 with
      | ok text =>
          rw [hbare] at h
          cases h
      | error raised =>
          rw [hbare] at h
          obtain rfl := Option.some.inj h
          exact ⟨command.refusalMessage, rfl⟩

end

end Imageboard.Command
