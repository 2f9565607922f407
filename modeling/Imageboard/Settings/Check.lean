import Imageboard.Settings.Field
import Imageboard.Text.Utf8
import Imageboard.Yaml.Value

/-!
Settings from values. A value is never converted to a text: what is no text is a problem. All
problems are found, in the order of the settings, each with the way to the value at fault.
-/
namespace Imageboard.Settings
open Yaml (Scalar Value)

/-- What is wrong with a value. -/
inductive Fault where
  | notText
  | brokenText
  | noLevel
  | notList
  | notRule
  | missing
deriving DecidableEq, Repr

/-- A step on the way to a value: to a setting or an entry by its name, or to an item of a list. -/
inductive Step where
  | name (name : String)
  | index (index : Nat)
deriving DecidableEq, Repr

/-- A fault and the way to it. -/
structure Problem where
  fault : Fault
  path : List Step
deriving DecidableEq, Repr

/-- What is found, or all problems on the way. -/
abbrev Checked := Except (List Problem)

namespace Checked

/-- A single fault at the value itself. -/
def fault {α : Type} (fault : Fault) : Checked α := .error [⟨fault, []⟩]

/-- Looks one step deeper. -/
def inside {α : Type} (step : Step) (checked : Checked α) : Checked α :=
  checked.mapError (List.map fun problem => { problem with path := step :: problem.path })

/-- Both of two findings, or the problems of both. -/
def both {α β : Type} : Checked α → Checked β → Checked (α × β)
  | .ok a, .ok b => .ok (a, b)
  | .ok _, .error later => .error later
  | .error first, .ok _ => .error first
  | .error first, .error later => .error (first ++ later)

/-- All findings in order, or the problems of all. -/
def all {α : Type} : List (Checked α) → Checked (List α)
  | [] => .ok []
  | checked :: others => (both checked (all others)).map fun (a, rest) => a :: rest

end Checked

/-- A text. Bytes are one if they can be read as one. -/
def checkText : Value → Checked (List Char)
  | .scalar (.text s) => .ok s
  | .scalar .brokenText => .fault .brokenText
  | .scalar (.bytes bytes) =>
    match Text.decodeUtf8 bytes with
    | .ok s => .ok s
    | .error _ => .fault .brokenText
  | _ => .fault .notText

def checkLevel (value : Value) : Checked LogLevel := do
  match LogLevel.ofName? (← checkText value) with
  | some level => return level
  | none => .fault .noLevel

/-- The value of an entry. -/
def findEntry (entries : List (Scalar × Value)) (name : String) : Option Value :=
  (entries.find? (·.1 == .text name.toList)).map (·.2)

/-- An entry that has to be a text. -/
def checkEntry (entries : List (Scalar × Value)) (name : String)
    (otherwise : Checked (List Char)) : Checked (List Char) :=
  .inside (.name name) (((findEntry entries name).map checkText).getD otherwise)

/-- A rule. It replaces its matches by nothing unless it says by what. -/
def checkRule : Value → Checked Rule
  | .mapping entries =>
    (Checked.both (checkEntry entries "pattern" (.fault .missing))
      (checkEntry entries "replace_with" (.ok []))).map fun (pattern, replacement) =>
        ⟨pattern, replacement⟩
  | _ => .fault .notRule

def checkItems (items : List Value) : Checked (List Rule) :=
  .all (items.zipIdx.map fun (item, index) => .inside (.index index) (checkRule item))

/-- A list of rules. -/
def checkRules : Value → Checked (List Rule)
  | .list items => checkItems items
  | .set members => checkItems (members.map .scalar)
  | _ => .fault .notList

/-- A setting, which keeps its standard value if nothing is said. -/
def checkField {α : Type} (values : Field → Option Value) (field : Field)
    (check : Value → Checked α) (standard : α) : Checked α :=
  match values field with
  | none => .ok standard
  | some value => .inside (.name field.name) (check value)

/-- The settings that values stand for. -/
def ofValues (values : Field → Option Value) : Checked Settings :=
  (Checked.both (checkField values .appName checkText standard.appName) <|
    .both (checkField values .databaseUrl checkText standard.databaseUrl) <|
    .both (checkField values .logLevel checkLevel standard.logLevel) <|
      checkField values .filterRules checkRules standard.filterRules).map
    fun (appName, databaseUrl, logLevel, filterRules) =>
      { appName, databaseUrl, logLevel, filterRules }

end Imageboard.Settings
