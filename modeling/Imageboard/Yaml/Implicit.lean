import Imageboard.Text.Split
import Imageboard.Yaml.Layout
import Imageboard.Yaml.Timestamp

/-!
Tags of nodes. A scalar without quotes has the tag of what it looks like: a truth value, a number,
nothing, a date; otherwise it is a text.
-/
namespace Imageboard.Yaml

/-- What a node is. -/
inductive Tag where
  | null
  | truth
  | integer
  | float
  | bytes
  | timestamp
  | text
  | sequence
  | mapping
  | set
  | orderedMapping
  | pairs
  | merge
  | value
  | unknown
deriving DecidableEq, Repr

namespace Tag

/-- What all tags of the format start with. -/
def namespaceText : List Char := "tag:yaml.org,2002:".toList

/-- Tags by the last part of their names. -/
def names : List (List Char × Tag) := [
  ("null".toList, .null), ("bool".toList, .truth), ("int".toList, .integer),
  ("float".toList, .float), ("binary".toList, .bytes), ("timestamp".toList, .timestamp),
  ("str".toList, .text), ("seq".toList, .sequence), ("map".toList, .mapping),
  ("set".toList, .set), ("omap".toList, .orderedMapping), ("pairs".toList, .pairs),
  ("merge".toList, .merge), ("value".toList, .value)]

/-- The tag with the given name in full. -/
def ofName (name : List Char) : Tag :=
  if namespaceText.isPrefixOf name then
    (names.lookup (name.drop namespaceText.length)).getD .unknown
  else .unknown

end Tag

namespace Implicit

/-- The words for truth values. -/
def truthWords : List (List Char × Bool) := [
  ("yes".toList, true), ("no".toList, false), ("true".toList, true), ("false".toList, false),
  ("on".toList, true), ("off".toList, false)]

/-- The three ways to write a word: in lower case, with one capital, in capitals. -/
def spellings (word : List Char) : List (List Char) :=
  match word with
  | [] => [[]]
  | c :: rest => [word, c.toUpper :: rest, word.map Char.toUpper]

def isTruthValue (s : List Char) : Bool :=
  truthWords.any fun (word, _) => (spellings word).contains s

def isNull (s : List Char) : Bool := s = [] || s = ['~'] || (spellings "null".toList).contains s

/-- A digit, or an underscore between digits. -/
def isDigitOrJoint (c : Char) : Bool := Text.isAsciiDigit c || c == '_'

/-- A number without its sign. -/
def unsigned : List Char → List Char
  | '+' :: s => s
  | '-' :: s => s
  | s => s

/-- The parts of a text between colons. -/
def colonParts (s : List Char) : List (List Char) := Text.splitAt (· == ':') s

/-- A number below sixty. -/
def isSexagesimalPart : List Char → Bool
  | [c] => Text.isAsciiDigit c
  | [c, d] => '0' ≤ c && c ≤ '5' && Text.isAsciiDigit d
  | _ => false

/-- Digits that start with a digit. -/
def isDigits : List Char → Bool
  | [] => false
  | c :: rest => Text.isAsciiDigit c && rest.all isDigitOrJoint

/-- Digits, and parts below sixty after colons. -/
def isSexagesimal (s : List Char) : Bool :=
  match colonParts s with
  | [] => false
  | first :: others => isDigits first && others.all isSexagesimalPart

def isUnsignedInteger : List Char → Bool
  | [] => false
  | '0' :: 'b' :: s => !s.isEmpty && s.all fun c => c == '0' || c == '1' || c == '_'
  | '0' :: 'x' :: s => !s.isEmpty && s.all fun c => Text.isHexDigit c || c == '_'
  | '0' :: s => s.all fun c => Text.isOctalDigit c || c == '_'
  | s => isSexagesimal s

def isInteger (s : List Char) : Bool := isUnsignedInteger (unsigned s)

/-- Nothing, or an exponent, whose sign has to be written. -/
def isExponent : List Char → Bool
  | [] => true
  | e :: sign :: digits =>
    (e == 'e' || e == 'E') && (sign == '+' || sign == '-') && !digits.isEmpty &&
      digits.all Text.isAsciiDigit
  | _ => false

/-- What stands before a point, and what stands after it. -/
def pointParts? (s : List Char) : Option (List Char × List Char) :=
  match s.dropWhile (· != '.') with
  | [] => none
  | _ :: after => some (s.takeWhile (· != '.'), after)

/-- A number with a point. Without digits before the point there is no sign, and after the point
there is a digit; parts below sixty and an exponent exclude each other. -/
def isPointNumber (s : List Char) : Bool :=
  match pointParts? (unsigned s) with
  | none => false
  | some (before, after) =>
    let exponent := after.dropWhile isDigitOrJoint
    if before = [] then
      s.head? == some '.' && after.head?.any Text.isAsciiDigit && isExponent exponent
    else if before.contains ':' then isSexagesimal before && exponent = []
    else isDigits before && isExponent exponent

def isInfinity (s : List Char) : Bool :=
  [".inf".toList, ".Inf".toList, ".INF".toList].contains (unsigned s)

def isNotANumber (s : List Char) : Bool :=
  [".nan".toList, ".NaN".toList, ".NAN".toList].contains s

def isFloat (s : List Char) : Bool := isPointNumber s || isInfinity s || isNotANumber s

def isTimestamp (s : List Char) : Bool := (WrittenDate.ofText? s).any (·.isEvident)

/-- What a text looks like. -/
def tagOf (s : List Char) : Tag :=
  if isTruthValue s then .truth
  else if isFloat s then .float
  else if isInteger s then .integer
  else if s = ['<', '<'] then .merge
  else if isNull s then .null
  else if isTimestamp s then .timestamp
  else if s = ['='] then .value
  else .text

end Implicit

/-- The tag of a text that is written without quotes. A newline at its end does not change what it
looks like, except that a newline alone looks like a text. -/
def Tag.ofPlain (s : List Char) : Tag :=
  match Implicit.tagOf s with
  | .text => if s.getLast? = some '\n' ∧ s ≠ ['\n'] then Implicit.tagOf s.dropLast else .text
  | tag => tag

end Imageboard.Yaml
