import Imageboard.Text.Runs

/-!
White space: space separators and the characters whose direction is that of white space.
-/
namespace Imageboard.Text

/-- Where white space starts and stops. -/
def blankRuns : List Nat := [
  9, 14, 28, 33, 133, 134, 160, 161, 5760, 5761, 8192, 8203, 8232, 8234, 8239, 8240, 8287, 8288,
  12288, 12289]

/-- White space of any kind, the newline and the information separators included. -/
def isBlank (c : Char) : Bool := inRuns blankRuns c.toNat

/-- White space that does not end a line. -/
def isInlineBlank (c : Char) : Bool := isBlank c && c != '\n'

/-- The six blank characters of ASCII patterns. -/
def isAsciiBlank (c : Char) : Bool :=
  c == ' ' || c == '\t' || c == '\n' || c == '\r' || c == '\x0b' || c == '\x0c'

end Imageboard.Text
