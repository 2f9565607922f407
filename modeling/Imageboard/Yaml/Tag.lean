import Imageboard.Text.Digit
import Imageboard.Text.Utf8
import Imageboard.Yaml.Place

/-!
Tags and the directives that go with them. A tag is written in full, or as a handle and a suffix;
what a handle stands for is said by a directive.
-/
namespace Imageboard.Yaml

/-- A tag as it is written: its handle, if any, and its suffix. -/
structure WrittenTag where
  handle : Option (List Char)
  suffix : List Char
deriving DecidableEq, Repr

/-- What a directive says: the major version of the format, what a handle stands for, or anything
else. -/
inductive Directive where
  | version (major : Nat)
  | handle (name start : List Char)
  | other
deriving DecidableEq, Repr

namespace WrittenTag
open Reader

/-- Bytes written as percent signs and two hexadecimal digits each. -/
def escapedBytes : Nat → Reader (List UInt8)
  | 0 => return []
  | fuel + 1 => do
    if ← accept '%' then
      let digits := (← get).rest.take 2
      require (digits.length == 2 && digits.all Text.isHexDigit)
      advance 2
      return (Text.hexValue digits).toUInt8 :: (← escapedBytes fuel)
    else return []

/-- Characters of a tag, which may be escaped byte by byte. -/
def tagChars : Nat → Reader (List Char)
  | 0 => return []
  | fuel + 1 => do
    match ← peek 0 with
    | none => return []
    | some c =>
      if c == '%' then
        match Text.decodeUtf8 (← escapedBytes (← remaining)) with
        | .error _ => refuse
        | .ok text => return text ++ (← tagChars fuel)
      else if isTagChar c then
        advance 1
        return c :: (← tagChars fuel)
      else return []

/-- A tag in full, a suffix, or what a handle stands for; it is never empty. -/
def readText : Reader (List Char) := do
  let text ← tagChars (← remaining)
  require (!text.isEmpty)
  return text

/-- A handle: an exclamation mark, or a name between two of them. -/
def readHandle : Reader (List Char) := do
  require (← accept '!')
  if (← peek 0) = some ' ' then return ['!']
  let name ← takeWhile isNameChar
  require (← accept '!')
  return '!' :: name ++ ['!']

/-- Whether a second exclamation mark stands in the tag at a place. -/
def hasHandle (p : Place) : Bool :=
  ((p.rest.drop 1).dropWhile fun c => !isBreak c && c != ' ' && c != '!').head? == some '!'

/-- A tag in full, between angle brackets. -/
def readVerbatim : Reader WrittenTag := do
  advance 2
  let suffix ← readText
  require (← accept '>')
  return ⟨none, suffix⟩

/-- A tag by its handle and suffix. -/
def readShorthand : Reader WrittenTag := do
  if hasHandle (← get) then
    let handle ← readHandle
    return ⟨some handle, ← readText⟩
  advance 1
  return ⟨some ['!'], ← readText⟩

/-- Reads a tag. -/
def read : Reader WrittenTag := do
  let next ← peek 1
  let tag ←
    if next == some '<' then readVerbatim
    else if endsWord next then
      advance 1
      pure ⟨none, ['!']⟩
    else readShorthand
  require (endsItem (← peek 0))
  return tag

end WrittenTag

namespace Directive
open Reader

/-- A number of a version. -/
def readNumber : Reader Nat := do
  let digits ← takeWhile Text.isAsciiDigit
  require (!digits.isEmpty)
  if Text.maxIntegerDigits < digits.length then throw (.overlongInteger digits.length)
  return Text.decimalValue digits

def readVersion : Reader Directive := do
  skipSpaces
  let major ← readNumber
  require (← accept '.')
  let _ ← readNumber
  require (endsItem (← peek 0))
  return .version major

def readHandle : Reader Directive := do
  skipSpaces
  let name ← WrittenTag.readHandle
  require ((← peek 0) == some ' ')
  skipSpaces
  let start ← WrittenTag.readText
  require (endsItem (← peek 0))
  return .handle name start

/-- Reads a directive, with the rest of its line. -/
def read : Reader Directive := do
  advance 1
  let name ← takeWhile isNameChar
  require (!name.isEmpty && endsItem (← peek 0))
  let directive ←
    if name = "YAML".toList then readVersion
    else if name = "TAG".toList then readHandle
    else
      skipWhile (!isBreak ·)
      pure .other
  emptyLineEnd
  return directive

end Directive

end Imageboard.Yaml
