import Imageboard.Text.Integer

/-!
The commands of the board, and how they are written on the command line. Options start with a dash
and may stand between other arguments; after two dashes nothing is an option any more.
-/
namespace Imageboard

/-- A command. Posts are read from the file at a path, or from the input where the path is a single
dash. -/
inductive Command where
  | init (reset : Bool)
  | thread (board path : List Char)
  | post (thread : Int) (path : List Char)
  | render (path : List Char) (resolve : Bool)
  | rules
deriving DecidableEq, Repr

namespace Command

/-- Whether an argument is an option. -/
def isOption : List Char → Bool
  | '-' :: _ :: _ => true
  | _ => false

/-- Tells options from other arguments. There is no answer if an option is not the given one. -/
def splitOptions? (option : Option (List Char)) :
    List (List Char) → Option (Bool × List (List Char))
  | [] => some (false, [])
  | arg :: others =>
    if arg = ['-', '-'] then some (false, others)
    else if isOption arg then
      if some arg = option then (splitOptions? option others).map fun (_, rest) => (true, rest)
      else none
    else (splitOptions? option others).map fun (given, rest) => (given, arg :: rest)

/-- The arguments of a command without options. -/
def arguments? (args : List (List Char)) : Option (List (List Char)) :=
  (splitOptions? none args).map (·.2)

def readInit? (args : List (List Char)) : Option Command := do
  match ← splitOptions? (some "--reset".toList) args with
  | (reset, []) => return .init reset
  | _ => none

def readThread? (args : List (List Char)) : Option Command := do
  match ← arguments? args with
  | [board, path] => return .thread board path
  | _ => none

def readPost? (args : List (List Char)) : Option Command := do
  match ← arguments? args with
  | [number, path] => return .post (← Text.readInteger? number) path
  | _ => none

def readRender? (args : List (List Char)) : Option Command := do
  match ← splitOptions? (some "--no-resolve".toList) args with
  | (unresolved, [path]) => return .render path (!unresolved)
  | _ => none

def readRules? (args : List (List Char)) : Option Command := do
  match ← arguments? args with
  | [] => return .rules
  | _ => none

/-- The command with a name, which reads its own arguments. -/
def named? (name : List Char) (args : List (List Char)) : Option Command :=
  if name = "init".toList then readInit? args
  else if name = "thread".toList then readThread? args
  else if name = "post".toList then readPost? args
  else if name = "render".toList then readRender? args
  else if name = "rules".toList then readRules? args
  else none

/-- The command that arguments write. There are no options in front of its name. -/
def read? : List (List Char) → Option Command
  | [] => none
  | ['-', '-'] :: name :: args => named? name args
  | name :: args => named? name args

/-- The path of the file that a command reads. -/
def path? : Command → Option (List Char)
  | .thread _ path => some path
  | .post _ path => some path
  | .render path _ => some path
  | .init _ | .rules => none

end Command

end Imageboard
