import Imageboard.Text.Digit
import Imageboard.Yaml.Place

/-!
Block scalars: lines that are indented below a header. They are kept as they are, or folded into
paragraphs; the header also says what becomes of the line ends after the last line.
-/
namespace Imageboard.Yaml.BlockText
open Reader

/-- What becomes of the line ends after the last line: one stays, none stays, or all stay. -/
inductive Chomping where
  | clip
  | strip
  | keep
deriving DecidableEq, Repr

def readChomping? : Reader (Option Chomping) := do
  if ← accept '+' then return some .keep
  if ← accept '-' then return some .strip
  return none

/-- The depth of the lines below their parent, which is never zero. -/
def readDepth? : Reader (Option Nat) := do
  match ← peek 0 with
  | none => return none
  | some c =>
    if Text.isAsciiDigit c then
      require (c != '0')
      advance 1
      return some (Text.asciiDigitValue c)
    else return none

/-- The header after its first character. -/
def readHeader : Reader (Chomping × Option Nat) := do
  let before ← readChomping?
  let depth ← readDepth?
  let after ← if before.isSome then pure none else readChomping?
  require (endsItem (← peek 0))
  emptyLineEnd
  return ((before.or after).getD .clip, depth)

/-- The ends of empty lines before the first line, and the column that the widest run of spaces
among them reaches. -/
def leadingLines : Nat → Reader (List Char × Nat)
  | 0 => return ([], 0)
  | fuel + 1 => do
    if ← accept ' ' then
      let column := (← get).column
      let (breaks, widest) ← leadingLines fuel
      return (breaks, max column widest)
    else
      match ← lineBreak? with
      | none => return ([], 0)
      | some c =>
        let (breaks, widest) ← leadingLines fuel
        return (c :: breaks, widest)

/-- Skips spaces up to the given column. -/
def skipIndent (indent : Nat) : Reader Unit := do
  let p ← get
  advance ((p.rest.take (indent - p.column)).takeWhile (· == ' ')).length

/-- The ends of empty lines, and the indentation of the next line. -/
def emptyLines (indent : Nat) : Nat → Reader (List Char)
  | 0 => return []
  | fuel + 1 => do
    skipIndent indent
    match ← lineBreak? with
    | none => return []
    | some c => return c :: (← emptyLines indent fuel)

/-- Whether a line of the scalar starts at a place. -/
def isAtLine (indent : Nat) (p : Place) : Bool := p.column == indent && !p.rest.isEmpty

/-- Whether a line starts with a blank. -/
def opensBlank (next : Option Char) : Bool := next.any isBlank

/-- The end of a line that another line follows. Folding joins lines that do not start with
blanks. -/
def joint (folded joinable : Bool) (ending : Option Char) (breaks : List Char) : List Char :=
  if folded && joinable && ending == some '\n' then (if breaks = [] then [' '] else [])
  else ending.toList

/-- Lines of a scalar: their text, the end of the last line, and the ends of the empty lines after
it. -/
structure Lines where
  text : List Char
  ending : Option Char
  breaks : List Char

/-- Reads lines, from the start of one. -/
def readLines (folded : Bool) (indent : Nat) : Nat → Reader Lines
  | 0 => return ⟨[], none, []⟩
  | fuel + 1 => do
    let blankBefore := opensBlank (← peek 0)
    let line ← takeWhile (!isBreak ·)
    let ending ← lineBreak?
    let breaks ← emptyLines indent (← remaining)
    let p ← get
    if isAtLine indent p then
      let joinable := !blankBefore && !opensBlank (p.peek 0)
      let others ← readLines folded indent fuel
      return { others with
        text := line ++ joint folded joinable ending breaks ++ breaks ++ others.text }
    else return ⟨line, ending, breaks⟩

/-- The text of lines, chomped. -/
def Lines.chomped (lines : Lines) : Chomping → List Char
  | .strip => lines.text
  | .clip => lines.text ++ lines.ending.toList
  | .keep => lines.text ++ lines.ending.toList ++ lines.breaks

/-- The empty lines before the first line, and the indentation of the lines. -/
def readIndent (least : Nat) : Option Nat → Reader (List Char × Nat)
  | some depth => do
    let indent := least + depth - 1
    return (← emptyLines indent ((← remaining) + 1), indent)
  | none => do
    let (breaks, widest) ← leadingLines ((← remaining) + 1)
    return (breaks, max least widest)

/-- Reads a block scalar whose lines are indented at least as far as given. -/
def read (folded : Bool) (least : Nat) : Reader (List Char) := do
  advance 1
  let (chomping, depth) ← readHeader
  let (breaks, indent) ← readIndent least depth
  if isAtLine indent (← get) then
    let lines ← readLines folded indent ((← remaining) + 1)
    return breaks ++ lines.chomped chomping
  else return if chomping = .keep then breaks else []

end Imageboard.Yaml.BlockText
