import Imageboard.Text.Position
import Imageboard.Text.Quoted

/-!
The refusal of a text by the grammar: where it happened and what was looked for.
-/
namespace Imageboard.Markup

/-- No alternative of the grammar applies at `position`, where `expected` had to stand. -/
structure SyntaxError where
  text : List Char
  position : Nat
  expected : String
deriving DecidableEq, Repr

namespace SyntaxError

/-- The line of the position, from one. -/
def line (e : SyntaxError) : Nat := Text.lineAt e.text e.position

/-- The column of the position, from one. -/
def column (e : SyntaxError) : Nat := Text.columnAt e.text e.position

/-- What had not been consumed. -/
def remainder (e : SyntaxError) : List Char := e.text.drop e.position

/-- The wording, which shows the first twenty characters of the remainder. -/
def message (e : SyntaxError) : String :=
  s!"Could not parse post at line {e.line}, column {e.column}: expected {e.expected}, found " ++
    String.ofList (Text.quoted (e.remainder.take 20))

end SyntaxError

end Imageboard.Markup
