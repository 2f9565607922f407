import Imageboard.Yaml.Quoted

/-!
Plain scalars: words without quotes, over one line or several. Inside of brackets they also end at
commas and brackets.
-/
namespace Imageboard.Yaml.Plain
open Reader

/-- Whether a word ends at a character, given the character after it. -/
def endsAt (inFlow : Bool) (c : Char) (next : Option Char) : Bool :=
  isBlank c || isBreak c || (c == ':' && (endsWord next || (inFlow && next.any isFlowMark))) ||
    (inFlow && (isFlowMark c || c == '?'))

/-- The word at the front of a text. -/
def word (inFlow : Bool) : List Char → List Char
  | [] => []
  | c :: rest => if endsAt inFlow c rest.head? then [] else c :: word inFlow rest

/-- The ends of empty lines, unless a document ends among them. -/
def emptyLines? : Nat → Reader (Option (List Char))
  | 0 => return some []
  | fuel + 1 => do
    if ← accept ' ' then emptyLines? fuel
    else
      match ← lineBreak? with
      | none => return some []
      | some c =>
        if (← get).atDocumentMark then return none
        else return (← emptyLines? fuel).map (c :: ·)

/-- What stands between two words, empty if the scalar ends here; and whether a line ended. -/
def readGap : Reader (List Char × Bool) := do
  let spaces ← takeWhile (· == ' ')
  match ← lineBreak? with
  | none => return (spaces, false)
  | some c =>
    if (← get).atDocumentMark then return ([], true)
    match ← emptyLines? (← remaining) with
    | none => return ([], true)
    | some others => return (foldBreak c others, true)

/-- Whether a scalar goes on at a place, after the given gap. -/
def goesOn (inFlow : Bool) (indent : Nat) (gap : List Char) (p : Place) : Bool :=
  !gap.isEmpty && p.peek 0 != some '#' && (inFlow || indent ≤ p.column) &&
    !(word inFlow p.rest).isEmpty

/-- Reads words; whether a line ended after the last of them. -/
def readWords (inFlow : Bool) (indent : Nat) : Nat → Reader (List Char × Bool)
  | 0 => return ([], false)
  | fuel + 1 => do
    let first := word inFlow (← get).rest
    advance first.length
    let (gap, lineEnded) ← readGap
    if goesOn inFlow indent gap (← get) then
      let (others, lineEnded) ← readWords inFlow indent fuel
      return (first ++ gap ++ others, lineEnded)
    else return (first, lineEnded)

/-- Reads a plain scalar whose lines are indented at least as far as given. -/
def read (inFlow : Bool) (indent : Nat) : Reader (List Char × Bool) := do
  readWords inFlow indent ((← remaining) + 1)

/-- Whether a plain scalar starts at a place. -/
def startsAt (inFlow : Bool) (p : Place) : Bool :=
  match p.peek 0 with
  | none => false
  | some c =>
    (!isBlank c && !isBreak c && !isIndicator c) ||
      (!endsWord (p.peek 1) && (c == '-' || (!inFlow && (c == '?' || c == ':'))))

end Imageboard.Yaml.Plain
