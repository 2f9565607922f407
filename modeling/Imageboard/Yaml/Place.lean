import Imageboard.Yaml.Failure
import Imageboard.Yaml.Letter

/-!
Places in a YAML text, and readers that move forward from one place to another. Lines and columns
are counted because the layout of a text is part of its meaning.
-/
namespace Imageboard.Yaml

/-- A place: what is left of the text, how many characters lie before it, its line and column. -/
structure Place where
  rest : List Char
  index : Nat
  line : Nat
  column : Nat
deriving DecidableEq, Repr

namespace Place

/-- The start of a text. -/
def start (text : List Char) : Place := ⟨text, 0, 0, 0⟩

/-- The place after the next character. A carriage return ends its line unless a newline follows. -/
def next (p : Place) : Place :=
  match p.rest with
  | [] => p
  | c :: rest =>
    if isBreak c && !(c == '\r' && rest.head? == some '\n') then ⟨rest, p.index + 1, p.line + 1, 0⟩
    else if c == byteOrderMark then ⟨rest, p.index + 1, p.line, p.column⟩
    else ⟨rest, p.index + 1, p.line, p.column + 1⟩

/-- The place a number of characters further on. -/
def forward (p : Place) : Nat → Place
  | 0 => p
  | n + 1 => p.next.forward n

/-- The character some way ahead. -/
def peek (p : Place) (offset : Nat) : Option Char := p.rest[offset]?

/-- Whether a mark that starts or ends a document stands here. -/
def atDocumentMark (p : Place) : Bool :=
  (['-', '-', '-'].isPrefixOf p.rest || ['.', '.', '.'].isPrefixOf p.rest) && endsWord (p.peek 3)

end Place

/-- Readers that move forward in a text. -/
abbrev Reader := StateT Place (Except Failure)

namespace Reader

/-- The character some way ahead. -/
def peek (offset : Nat) : Reader (Option Char) := return (← get).peek offset

def advance (count : Nat) : Reader Unit := modify (·.forward count)

/-- Refuses the text. -/
def refuse {α : Type} : Reader α := throw .malformed

/-- Refuses the text unless the condition holds. -/
def require (condition : Bool) : Reader Unit := if condition then pure () else refuse

/-- Takes the characters up to the first that does not satisfy a condition. -/
def takeWhile (condition : Char → Bool) : Reader (List Char) := do
  let taken := (← get).rest.takeWhile condition
  advance taken.length
  return taken

def skipWhile (condition : Char → Bool) : Reader Unit := do
  let _ ← takeWhile condition

def skipSpaces : Reader Unit := skipWhile (· == ' ')

/-- Takes one character if it is the given one. -/
def accept (c : Char) : Reader Bool := do
  if (← peek 0) = some c then
    advance 1
    return true
  else return false

/-- Takes the end of a line, if there is one here. Most line ends count as a newline. -/
def lineBreak? : Reader (Option Char) := do
  match ← peek 0 with
  | none => return none
  | some c =>
    if isBreak c then
      advance (if c == '\r' && (← peek 1) == some '\n' then 2 else 1)
      return some (if c == '\u2028' || c == '\u2029' then c else '\n')
    else return none

/-- Skips a comment, up to the end of its line. -/
def skipComment : Reader Unit := do
  if (← peek 0) = some '#' then skipWhile (!isBreak ·)

/-- The rest of a line that has to be empty but for blanks and a comment, with its end. -/
def emptyLineEnd : Reader Unit := do
  skipSpaces
  skipComment
  require (endsLine (← peek 0))
  let _ ← lineBreak?

/-- The number of characters that are left. -/
def remaining : Reader Nat := return (← get).rest.length

end Reader

end Imageboard.Yaml
