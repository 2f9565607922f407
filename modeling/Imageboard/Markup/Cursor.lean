import Imageboard.Markup.Reader
import Imageboard.Text.Alphanumeric
import Imageboard.Text.Blank
import Imageboard.Text.Digit

/-!
A cursor over a text: a position that readers move forward, and trials that put it back when they
fail. A position may lie past the end, where nothing can be read, not even the empty text.
-/
namespace Imageboard.Markup

/-- A text and a position in it. -/
structure Cursor where
  text : List Char
  position : Nat
deriving DecidableEq, Repr

namespace Cursor

/-- What lies at and after the position. -/
def rest (c : Cursor) : List Char := c.text.drop c.position

def atEnd (c : Cursor) : Bool := c.text.length ≤ c.position

/-- The cursor over the same text that leaves the given rest. -/
def leaving (c : Cursor) (rest : List Char) : Cursor :=
  { c with position := c.text.length - rest.length }

/-- Tries a reader at the position; the cursor stays where it is when the reader fails. -/
def attempt {α : Type} (read : Reader α) (c : Cursor) : Option α × Cursor :=
  match read c.rest with
  | none => (none, c)
  | some (value, rest) => (some value, c.leaving rest)

/-- The character at an offset from the position, if it does not lie past the end. An index below
zero counts from the end of the text; one before its start is refused. -/
def peek (c : Cursor) (offset : Int) : Except Unit (Option Char) :=
  let index : Int := c.position + offset
  if 0 ≤ index then .ok c.text[index.toNat]?
  else
    let fromEnd : Int := c.text.length + index
    if 0 ≤ fromEnd then .ok c.text[fromEnd.toNat]? else .error ()

/-- Whether the given characters stand at the position. -/
def startsWith (c : Cursor) (marker : List Char) : Bool :=
  c.position ≤ c.text.length && opensWith marker c.rest

/-- Moves past the given characters if they stand at the position. -/
def expect (c : Cursor) (marker : List Char) : Bool × Cursor :=
  if c.startsWith marker then (true, { c with position := c.position + marker.length })
  else (false, c)

/-- Moves past the characters of a class. -/
def takeWhile (c : Cursor) (p : Char → Bool) : List Char × Cursor :=
  let taken := c.rest.takeWhile p
  (taken, { c with position := c.position + taken.length })

/-- Moves past blanks that do not end the line. -/
def skipInlineBlanks (c : Cursor) : Cursor := (c.takeWhile Text.isInlineBlank).2

/-- The classes of characters that can be taken by name. -/
inductive CharClass where
  | alphanumeric
  | blank
  | asciiDigit
  | inLine

def CharClass.contains : CharClass → Char → Bool
  | .alphanumeric => Text.isAlphanumeric
  | .blank => Text.isBlank
  | .asciiDigit => Text.isAsciiDigit
  | .inLine => (· != '\n')

/-- What a cursor can be told to do. -/
inductive Step where
  | atEnd
  | peek (offset : Int)
  | startsWith (marker : List Char)
  | expect (marker : List Char)
  | takeWhile (kind : CharClass)
  | skipInlineBlanks
  | attempt (steps : List Step)
deriving Inhabited

/-- What a cursor answers. -/
inductive Answer where
  | truth (value : Bool)
  | text (content : List Char)
  | nothing
deriving DecidableEq, Repr

/-- Whether an answer lets a trial stand: neither false nor empty. -/
def Answer.succeeds : Answer → Bool
  | .truth value => value
  | .text content => content ≠ []
  | .nothing => false

mutual

/-- One step. An index before the start of the text is an error, which leaves the cursor where it
arose, inside a trial too. -/
def step (c : Cursor) : Step → Except Unit Answer × Cursor
  | .atEnd => (.ok (.truth c.atEnd), c)
  | .peek offset => ((c.peek offset).map fun found => .text found.toList, c)
  | .startsWith marker => (.ok (.truth (c.startsWith marker)), c)
  | .expect marker =>
    let (found, c) := c.expect marker
    (.ok (.truth found), c)
  | .takeWhile kind =>
    let (taken, c) := c.takeWhile kind.contains
    (.ok (.text taken), c)
  | .skipInlineBlanks => (.ok .nothing, c.skipInlineBlanks)
  | .attempt steps =>
    match c.steps .nothing steps with
    | (.error e, after) => (.error e, after)
    | (.ok answer, after) => if answer.succeeds then (.ok answer, after) else (.ok .nothing, c)

/-- Steps in a row; the last one answers, or the first error. -/
def steps (c : Cursor) (answer : Answer) : List Step → Except Unit Answer × Cursor
  | [] => (.ok answer, c)
  | first :: others =>
    match c.step first with
    | (.error e, after) => (.error e, after)
    | (.ok answer, after) => after.steps answer others

end

end Cursor

end Imageboard.Markup
