import Imageboard.Pattern.Compile

/-!
Replacement templates: literal text with references to the groups of a pattern.
-/
namespace Imageboard.Pattern

/-- A piece of a template. -/
inductive TemplatePiece where
  | literal (text : List Char)
  | group (number : Nat)
deriving DecidableEq, Repr

/-- A reader of templates. -/
abbrev TemplateReader := ReadM Source

/-- A reference to a group, which the pattern has to have. -/
def groupPiece (pattern : Pattern) (number position : Nat) : TemplateReader TemplatePiece :=
  if pattern.groupCount < number then failAt (.invalidReference number) position
  else return .group number

/-- A group by name or number; its escape letter has been taken. A name that the pattern lacks is
not a fault of the template. -/
def readGroupPiece (pattern : Pattern) : TemplateReader TemplatePiece := do
  if ← accept '<' then
    let name ← readName '>' .group
    let position := (← tell) - (name.length + 1)
    if Text.isIdentifier name then
      match pattern.names.lookup name with
      | some number => groupPiece pattern number position
      | none => throw (.unknownGroupName name)
    else
      match Text.readInteger? name with
      | none => failAt (.badGroupName name) position
      | some value =>
        if value < 0 then failAt (.badGroupName name) position
        else if maxGroups ≤ value.toNat then failAt (.invalidReference value.toNat) position
        else groupPiece pattern value.toNat position
  else failHere .missingAngle

/-- A character by its octal code, of which a byte is kept. -/
def octalPiece (digits : List Char) : TemplatePiece :=
  .literal [Char.ofNat (Text.octalValue digits % 256)]

/-- An escape that opens with a digit other than zero; its backslash is at `start`. -/
def readDigitPiece (pattern : Pattern) (c : Char) (start : Nat) :
    TemplateReader TemplatePiece := do
  let more ← takeUpTo Text.isAsciiDigit 1
  let octal := Text.isOctalDigit c && !more.isEmpty && more.all Text.isOctalDigit
  let third ← takeUpTo Text.isOctalDigit (if octal then 1 else 0)
  let digits := c :: more ++ third
  if third.isEmpty then groupPiece pattern (Text.decimalValue digits) (start + 1)
  else if 0o377 < Text.octalValue digits then failAt (.octalTooLarge ('\\' :: digits)) start
  else return octalPiece digits

/-- An escape of a template; its backslash is at `start`. -/
def readEscapePiece (pattern : Pattern) (c : Char) (start : Nat) :
    TemplateReader TemplatePiece := do
  if c = 'g' then readGroupPiece pattern
  else if c = '0' then return octalPiece (c :: (← takeUpTo Text.isOctalDigit 2))
  else if Text.isAsciiDigit c then readDigitPiece pattern c start
  else
    match controlEscape? c with
    | some code => return .literal [Char.ofNat code]
    | none =>
      if Text.isAsciiLetter c then failAt (.badEscape ['\\', c]) start
      else return .literal ['\\', c]

/-- The pieces of a template, by at most the given number of tokens. -/
def readPieces (pattern : Pattern) : Nat → TemplateReader (List TemplatePiece)
  | 0 => return []
  | fuel + 1 => do
    let start ← tell
    match ← take with
    | none => return []
    | some (.char c) => return .literal [c] :: (← readPieces pattern fuel)
    | some (.escape c) =>
      let piece ← readEscapePiece pattern c start
      return piece :: (← readPieces pattern fuel)

/-- Reads a template for a pattern. -/
def readTemplate (pattern : Pattern) (template : List Char) :
    Except Failure (List TemplatePiece) := do
  let source ← Source.ofText template
  let (pieces, _) ← (readPieces pattern (template.length + 1)).run source
  return pieces

/-- The characters of a text from one position to another. -/
def slice (text : Array Char) (start stop : Nat) : List Char := (text.extract start stop).toList

/-- What a piece of a template becomes for a match, which starts at `start`. A group that has
captured nothing becomes the empty text. -/
def TemplatePiece.expand (text : Array Char) (start : Nat) (found : Place) :
    TemplatePiece → List Char
  | .literal content => content
  | .group 0 => slice text start found.position
  | .group number =>
    match found.span? number with
    | none => []
    | some (start, stop) => slice text start stop

/-- What a template becomes for a match. -/
def expandTemplate (text : Array Char) (template : List TemplatePiece) (start : Nat)
    (found : Place) : List Char :=
  template.flatMap (·.expand text start found)

/-- Replaces the matches from a position on and counts them. A match that takes nothing may follow
one that takes something, but not one that takes nothing. -/
def replaceFrom (pattern : Pattern) (template : List TemplatePiece) (text : Array Char) :
    Nat → Nat → Bool → List Char × Nat
  | 0, position, _ => (slice text position text.size, 0)
  | fuel + 1, position, advancing =>
    match pattern.search text position advancing (text.size - position) with
    | none => (slice text position text.size, 0)
    | some (start, found) =>
      let (rest, count) :=
        replaceFrom pattern template text fuel found.position (found.position == start)
      (slice text position start ++ expandTemplate text template start found ++ rest, count + 1)

/-- Replaces every match of a pattern in a text and counts them. -/
def replaceAll (pattern : Pattern) (template : List TemplatePiece) (text : List Char) :
    List Char × Nat :=
  replaceFrom pattern template text.toArray (2 * text.length + 2) 0 false

end Imageboard.Pattern
