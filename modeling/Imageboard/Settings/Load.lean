import Imageboard.Settings.Check
import Imageboard.Text.Newline

/-!
Loading settings. They come from a file, over which the environment goes, over which overrides go.
The patterns of the rules are compiled at once, so that a bad one is found before the first post.
-/
namespace Imageboard.Settings
open Yaml (Scalar Value)

/-- The name of the file with the settings. -/
def fileName : String := "config.yaml"

/-- Where settings come from: the text of the file if there is one, the variables of the
environment, and overrides. -/
structure Sources where
  file : Option (List Char)
  environment : List (String × List Char)
  overrides : List (List Char × Value)

/-- Why there are no settings: a text has no value, the values have no names, there is nothing that
could be overridden, there are problems with the values, or a rule does not compile. -/
inductive Failure where
  | file (failure : Yaml.Failure)
  | variable (field : Field) (failure : Yaml.Failure)
  | noNames
  | notOverridable
  | invalid (problems : List Problem)
  | rule (failure : RuleFailure)
deriving DecidableEq, Repr

/-- The wording of a failure. A malformed text is told by where it comes from. -/
def Failure.message : Failure → String
  | .file failure => failure.message?.getD s!"Invalid {fileName}"
  | .variable field failure => failure.message?.getD s!"Invalid {field.variableName}"
  | .noNames => "settings need names"
  | .notOverridable => "settings cannot be overridden"
  | .invalid problems =>
    s!"{problems.length} validation error" ++ (if problems.length = 1 then "" else "s") ++
      " for Settings"
  | .rule failure => failure.message

/-- How deep values are looked into: settings, rules, and the entries of a rule. -/
def depth : Nat := 3

/-- The value of the file. A value that counts as nothing stands for no settings at all. -/
def fileValue (file : Option (List Char)) : Except Failure Value :=
  match file with
  | none => .ok (.mapping [])
  | some text =>
    match Yaml.read depth (Text.universalNewlines text) with
    | .error failure => .error (.file failure)
    | .ok value => .ok (if value.isEmpty then .mapping [] else value)

/-- Puts a value under a name. -/
def put (entries : List (Scalar × Value)) (name : List Char) (value : Value) :
    List (Scalar × Value) :=
  Yaml.Graph.putEntry entries (.text name, value)

/-- The value of a variable: the text itself, or what a text for rules stands for. -/
def variableValue (field : Field) (text : List Char) : Except Failure Value :=
  match field with
  | .filterRules => (Yaml.read depth text).mapError (.variable field)
  | _ => .ok (.scalar (.text text))

/-- Puts the variable for a setting over a value. A variable that is empty says nothing. -/
def putVariable (environment : List (String × List Char)) (value : Value) (field : Field) :
    Except Failure Value :=
  match environment.lookup field.variableName with
  | none | some [] => .ok value
  | some text => do
    let found ← variableValue field text
    match value with
    | .mapping entries => return .mapping (put entries field.name.toList found)
    | _ => throw .noNames

/-- The overrides that say something. -/
def givenOverrides (overrides : List (List Char × Value)) : List (List Char × Value) :=
  overrides.filter fun (_, value) =>
    match value with
    | .scalar .null => false
    | _ => true

/-- Puts overrides over a value. -/
def putOverrides (overrides : List (List Char × Value)) (value : Value) : Except Failure Value :=
  if overrides.isEmpty then .ok value
  else
    match value with
    | .mapping entries =>
      .ok (.mapping ((givenOverrides overrides).foldl (fun entries (name, value) =>
        put entries name value) entries))
    | .set members => .ok (.set members)
    | _ => .error .notOverridable

/-- Whether a key is a name. -/
def isName : Scalar → Bool
  | .text _ | .brokenText => true
  | _ => false

/-- The entries of a value in which each has a name. -/
def namedEntries : Value → Except Failure (List (Scalar × Value))
  | .mapping entries =>
    if entries.all fun (key, _) => isName key then .ok entries else .error .noNames
  | _ => .error .noNames

/-- The entries that all sources together make. -/
def entries (sources : Sources) : Except Failure (List (Scalar × Value)) := do
  let value ← fileValue sources.file
  let value ← Field.all.foldlM (putVariable sources.environment) value
  namedEntries (← putOverrides sources.overrides value)

/-- Loads the settings. -/
def load (sources : Sources) : Except Failure Settings := do
  let entries ← entries sources
  let settings ← (ofValues fun field => findEntry entries field.name).mapError .invalid
  let _ ← (Rule.compileAll settings.filterRules).mapError Failure.rule
  return settings

end Imageboard.Settings
