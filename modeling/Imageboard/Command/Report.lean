import Imageboard.Command.Database
import Imageboard.Settings.Load
import Imageboard.Text.Control

/-!
How commands end. They report the failures that they foresee, which are about what they were given:
a text, a rule, a number, a setting. Any other failure breaks them off.
-/
namespace Imageboard

/-- Whether a failure of a pattern is foreseen. -/
def Pattern.Failure.isForeseen : Pattern.Failure → Bool
  | .fault _ | .overlongNumber _ | .asciiAndUnicode => true
  | .repetitionTooLarge | .unknownGroupName _ => false

/-- Whether the rejection of a post is foreseen. -/
def Post.Rejection.isForeseen : Post.Rejection → Bool
  | .rule failure => failure.failure.isForeseen
  | .refused _ => true

/-- Whether a failure of the store is foreseen. -/
def Store.Failure.isForeseen : Store.Failure → Bool
  | .threadNotFound _ => true
  | .rejected rejection => rejection.isForeseen
  | .noTables | .idTooLarge => false

/-- Whether a failure of a YAML text is foreseen. -/
def Yaml.Failure.isForeseen : Yaml.Failure → Bool
  | .malformed | .integer .. | .overlongInteger _ | .float _ | .date _ => true
  | .codePoint code => code < Yaml.hugeCode
  | .emptyNumber | .truth _ | .noDate => false

/-- Whether a failure to load settings is foreseen. -/
def Settings.Failure.isForeseen : Settings.Failure → Bool
  | .file failure | .variable _ failure => failure.isForeseen
  | .invalid _ => true
  | .rule failure => failure.failure.isForeseen
  | .noNames | .notOverridable => false

namespace Command

/-- A failure that breaks a command off. -/
inductive Breakdown where
  | settings (failure : Settings.Failure)
  | settingsFile
  | body (failure : Text.DecodeFailure)
  | tablesAsBody
  | location (fault : LocationFault)
  | store (failure : Store.Failure)
deriving DecidableEq, Repr

/-- How a command stops short: with a message and the cause of the failure, or broken off. -/
inductive Stop where
  | report (message : List Char) (cause : Option (List Char))
  | breakdown (breakdown : Breakdown)
deriving DecidableEq, Repr

/-- What a report says. -/
def reportText (message : List Char) (cause : Option (List Char)) : List Char :=
  "Error: ".toList ++ message ++ '\n' ::
    (cause.map fun cause => ' ' :: ' ' :: cause ++ ['\n']).getD []

/-- What comes out of a command: what it prints, or why it stops short. -/
abbrev Outcome := Except Stop (List Char)

/-- The status that a call ends with. There is no outcome where its arguments write no command. -/
def exitStatus : Option Outcome → Nat
  | some (.ok _) => 0
  | some (.error _) => 1
  | none => 2

/-- What a command prints on a terminal. -/
def printed : Outcome → List Char
  | .ok text => text
  | .error _ => []

/-- What a command reports on a terminal. -/
def reported : Outcome → List Char
  | .error (.report message cause) => reportText message cause
  | _ => []

/-- What a command prints where no terminal shows it. -/
def output (outcome : Outcome) : List Char := Text.withoutControls (printed outcome)

/-- What a command reports where no terminal shows it. -/
def errorOutput (outcome : Outcome) : List Char := Text.withoutControls (reported outcome)

end Command

end Imageboard
