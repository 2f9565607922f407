/-!
Lines and columns of a position in a text, both counted from one. A position past the end lies on
the last line.
-/
namespace Imageboard.Text

/-- The characters after the last newline. -/
def lastLine (s : List Char) : List Char := (s.reverse.takeWhile (· != '\n')).reverse

/-- The line on which a position lies. -/
def lineAt (s : List Char) (position : Nat) : Nat := (s.take position).count '\n' + 1

/-- Where the line of a position starts. -/
def lineStart (s : List Char) (position : Nat) : Nat :=
  (s.take position).length - (lastLine (s.take position)).length

/-- The column of a position within its line. -/
def columnAt (s : List Char) (position : Nat) : Nat := position - lineStart s position + 1

end Imageboard.Text
