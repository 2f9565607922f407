import Imageboard.Pattern.Node
import Imageboard.Text.Alphanumeric
import Imageboard.Text.Blank
import Imageboard.Text.Digit
import Imageboard.Text.LetterCase

/-!
Which characters a node of one character accepts. Without regard to case, letters are compared by
their lower forms and by those that share an upper form; a set does so only if it holds a letter
that has case.
-/
namespace Imageboard.Pattern

/-- How a part of a pattern is matched. -/
structure Mode where
  ascii : Bool
  ignoreCase : Bool
  multiline : Bool
  dotAll : Bool
deriving DecidableEq, Repr

/-- The mode of a whole pattern. -/
def Mode.ofFlags (flags : List Flag) : Mode where
  ascii := flags.contains .ascii
  ignoreCase := flags.contains .ignoreCase
  multiline := flags.contains .multiline
  dotAll := flags.contains .dotAll

/-- The mode inside a group that turns flags on and off. -/
def Mode.inside (mode : Mode) (on off : List Flag) : Mode where
  ascii := if on.any Flag.isType then on.contains .ascii else mode.ascii
  ignoreCase := (mode.ignoreCase || on.contains .ignoreCase) && !off.contains .ignoreCase
  multiline := (mode.multiline || on.contains .multiline) && !off.contains .multiline
  dotAll := (mode.dotAll || on.contains .dotAll) && !off.contains .dotAll

/-- The lower form of a code point. -/
def Mode.lower (mode : Mode) (code : Nat) : Nat :=
  if mode.ascii then Text.asciiLowerCode code else Text.lowerCode code

/-- The lower letters equal to a lower letter but for case, itself included. -/
def Mode.fellows (mode : Mode) (lower : Nat) : List Nat :=
  if mode.ascii then [lower] else lower :: Text.caseFellows lower

/-- Whether a code point has another form in either case. -/
def Mode.cased (mode : Mode) (code : Nat) : Bool :=
  if mode.ascii then Text.isAsciiCased code else Text.isCased code

/-- Whether an interval holds a code point that has another form in either case. -/
def Mode.anyCased (mode : Mode) (first last : Nat) : Bool :=
  if mode.ascii then (first ≤ 90 && 65 ≤ last) || (first ≤ 122 && 97 ≤ last)
  else Text.anyCased first last

/-- The code points with the given lower form. -/
def Mode.preimages (mode : Mode) (lower : Nat) : List Nat :=
  if mode.ascii then [lower, lower - 32].filter fun other => Text.asciiLowerCode other == lower
  else Text.lowerPreimages lower

/-- Whether a character belongs to a category. -/
def Category.contains (mode : Mode) (kind : Category) (c : Char) : Bool :=
  match kind with
  | .digit => if mode.ascii then Text.isAsciiDigit c else Text.isDecimalDigit c
  | .blank => if mode.ascii then Text.isAsciiBlank c else Text.isBlank c
  | .word =>
    c == '_' ||
      if mode.ascii then Text.isAsciiLetter c || Text.isAsciiDigit c else Text.isAlphanumeric c

/-- Whether a character is the given one, with regard to the mode. -/
def charMatches (mode : Mode) (code : Nat) (c : Char) : Bool :=
  if mode.ignoreCase && mode.cased code then
    (mode.fellows (mode.lower code)).contains (mode.lower c.toNat)
  else code == c.toNat

/-- The last code point of the basic plane. -/
def maxBasicCode : Nat := 0xFFFF

/-- Whether a set item brings case into its set. -/
def SetItem.cased (mode : Mode) : SetItem → Bool
  | .char code => maxBasicCode < code || mode.cased code
  | .range first last => maxBasicCode < last || mode.anyCased first last
  | .category _ _ => false

/-- Whether a set item holds a character as it is. -/
def SetItem.contains (mode : Mode) (c : Char) : SetItem → Bool
  | .char code => code == c.toNat
  | .range first last => first ≤ c.toNat && c.toNat ≤ last
  | .category kind negated => kind.contains mode c != negated

/-- Whether a set item holds a character without regard to case, given its lower form. Beyond the
basic plane a single character stands for itself alone, and a range also holds what has its upper
form in it. -/
def SetItem.containsLower (mode : Mode) (lower : Nat) : SetItem → Bool
  | .char code =>
    if maxBasicCode < code then code == lower
    else (mode.fellows (mode.lower code)).contains lower
  | .range first last =>
    let basic := (mode.fellows lower).any fun fellow =>
      (mode.preimages fellow).any fun code =>
        first ≤ code && code ≤ last && code ≤ maxBasicCode
    let beyond := maxBasicCode < last &&
      ((first ≤ lower && lower ≤ last) ||
        (first ≤ Text.upperCode lower && Text.upperCode lower ≤ last))
    basic || beyond
  | .category kind negated => kind.contains mode (Char.ofNat lower) != negated

/-- Whether a set holds a character. -/
def setMatches (mode : Mode) (negated : Bool) (items : List SetItem) (c : Char) : Bool :=
  let held :=
    if mode.ignoreCase && items.any (·.cased mode) then
      items.any (·.containsLower mode (mode.lower c.toNat))
    else items.any (·.contains mode c)
  held != negated

/-- Whether the dot accepts a character. -/
def dotMatches (mode : Mode) (c : Char) : Bool := mode.dotAll || c != '\n'

/-- Whether two characters are equal, with regard to the mode. -/
def sameChar (mode : Mode) (a b : Char) : Bool :=
  if mode.ignoreCase then mode.lower a.toNat == mode.lower b.toNat else a == b

end Imageboard.Pattern
