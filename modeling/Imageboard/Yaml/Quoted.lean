import Imageboard.Text.Digit
import Imageboard.Yaml.Place

/-!
Quoted scalars. Inside of double quotes a backslash starts an escape; inside of single quotes only
the quote itself needs care, and is written twice. A line end is folded.
-/
namespace Imageboard.Yaml

/-- A line end and the line ends after it: a single newline becomes a space, and of several the
first is dropped. -/
def foldBreak (first : Char) (others : List Char) : List Char :=
  if first ≠ '\n' then first :: others
  else if others = [] then [' ']
  else others

namespace Quoted
open Reader

/-- The code of a letter that stands for one character. -/
def shortEscape? : Char → Option Nat
  | '0' => some 0
  | 'a' => some 7
  | 'b' => some 8
  | 't' => some 9
  | '\t' => some 9
  | 'n' => some 10
  | 'v' => some 11
  | 'f' => some 12
  | 'r' => some 13
  | 'e' => some 27
  | ' ' => some 32
  | '"' => some 34
  | '/' => some 47
  | '\\' => some 92
  | 'N' => some 0x85
  | '_' => some 0xA0
  | 'L' => some 0x2028
  | 'P' => some 0x2029
  | _ => none

/-- The number of hexadecimal digits after a letter. -/
def codeLength? : Char → Option Nat
  | 'x' => some 2
  | 'u' => some 4
  | 'U' => some 8
  | _ => none

/-- The character with the given code, none for half of a surrogate pair. -/
def charOfCode (code : Nat) : Reader (Option Char) :=
  if 0x10FFFF < code then throw (.codePoint code)
  else if 0xD800 ≤ code && code ≤ 0xDFFF then return none
  else return some (Char.ofNat code)

/-- The ends of empty lines, and the blanks in front of the next line. -/
def emptyLines : Nat → Reader (List Char)
  | 0 => return []
  | fuel + 1 => do
    require !(← get).atDocumentMark
    skipWhile isBlank
    match ← lineBreak? with
    | none => return []
    | some c => return c :: (← emptyLines fuel)

/-- What an escape stands for; the backslash has been taken. -/
def readEscape : Reader (List (Option Char)) := do
  let some c ← peek 0 | refuse
  if let some code := shortEscape? c then
    advance 1
    return [some (Char.ofNat code)]
  if let some count := codeLength? c then
    advance 1
    let digits := (← get).rest.take count
    require (digits.length == count && digits.all Text.isHexDigit)
    let char ← charOfCode (Text.hexValue digits)
    advance count
    return [char]
  match ← lineBreak? with
  | none => refuse
  | some _ => return (← emptyLines (← remaining)).map some

/-- Blanks between words. With a line end among them they are folded. -/
def readGap : Reader (List Char) := do
  let blanks ← takeWhile isBlank
  match ← lineBreak? with
  | none => return blanks
  | some c => return foldBreak c (← emptyLines (← remaining))

/-- Reads up to the closing quote. -/
def readToQuote (quote : Char) : Nat → Reader (List (Option Char))
  | 0 => refuse
  | fuel + 1 => do
    let some c ← peek 0 | refuse
    if isBlank c || isBreak c then
      let gap ← readGap
      return gap.map some ++ (← readToQuote quote fuel)
    else if c == quote then
      if quote == '\'' && (← peek 1) == some '\'' then
        advance 2
        return some '\'' :: (← readToQuote quote fuel)
      else
        advance 1
        return []
    else if quote == '"' && c == '\\' then
      advance 1
      let escape ← readEscape
      return escape ++ (← readToQuote quote fuel)
    else
      advance 1
      return some c :: (← readToQuote quote fuel)

/-- Reads a quoted scalar. There is no text if an escape stands for half of a surrogate pair. -/
def read (quote : Char) : Reader (Option (List Char)) := do
  advance 1
  return (← readToQuote quote ((← remaining) + 1)).mapM id

end Quoted

end Imageboard.Yaml
