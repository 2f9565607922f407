import Imageboard.Markup.Line
import Imageboard.Markup.SyntaxError
import Imageboard.Text.Integer

/-!
The two reasons for which a text is not parsed, and the parsing of a single line.
-/
namespace Imageboard.Markup

/-- Why a text was not parsed. -/
inductive Refusal where
  | syntaxError (error : SyntaxError)
  | overlongReference (error : OverlongReference)
deriving DecidableEq, Repr

/-- The wording for a number written with too many digits. -/
def OverlongReference.message (e : OverlongReference) : String :=
  Text.overlongMessage maxReferenceDigits e.digits

def Refusal.message : Refusal → String
  | .syntaxError error => error.message
  | .overlongReference error => error.message

variable {m : Type → Type} [Monad m]

/-- The items of a text that is one whole line. -/
def parseLine (lookup : Lookup m) (line : List Char) : ExceptT Refusal m (List LineItem) :=
  match readItems lookup line with
  | none => throw (.syntaxError ⟨line, 0, "end of line"⟩)
  | some (settle, rest) => do
    let items ← ExceptT.adapt Refusal.overlongReference settle
    if rest = [] then return items
    else throw (.syntaxError ⟨line, line.length - rest.length, "end of line"⟩)

end Imageboard.Markup
