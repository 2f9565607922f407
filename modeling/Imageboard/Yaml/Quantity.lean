import Imageboard.Text.Integer
import Imageboard.Text.LetterCase
import Imageboard.Yaml.Failure
import Imageboard.Yaml.Implicit

/-!
Numbers of a YAML text. Integers are written in base two, eight, ten, sixteen or sixty; numbers with
a point in base ten or sixty. Underscores between digits do not count.
-/
namespace Imageboard.Yaml

/-- A number with a point, exactly as it is written, or one of the values beyond all numbers. -/
inductive Quantity where
  | finite (value : Rat)
  | infinite (negative : Bool)
  | undefined
deriving DecidableEq

namespace Quantity

/-- Numbers closer to zero than this are zero: half of the smallest number that is told from it. -/
def threshold : Rat := mkRat 1 (1 <<< 1075)

/-- Whether a number is told from zero. -/
def isZero : Quantity → Bool
  | .finite value => value.abs ≤ threshold
  | _ => false

/-- Numbers of so many digits before the point, or zeros after it, are not told apart any more. -/
def maxExponent : Int := 400

/-- The number with the given digits, whose last one counts the given power of ten. -/
def ofDigits (negative : Bool) (digits : Nat) (length : Nat) (exponent : Int) : Quantity :=
  if digits = 0 ∨ exponent + length < -maxExponent then .finite 0
  else if maxExponent < exponent + length then .infinite negative
  else
    let size : Rat := (digits : Rat) * (10 : Rat) ^ exponent
    .finite (if negative then -size else size)

/-- Digits of any script at the front of a text, and what is left after them. -/
def digitRun (s : List Char) : List Nat × List Char :=
  let run := s.takeWhile Text.isDecimalDigit
  (run.filterMap Text.digitValue?, s.drop run.length)

/-- An exponent up to the end of the text, which may be missing. -/
def exponent? : List Char → Option Int
  | [] => some 0
  | e :: s =>
    if e ≠ 'e' then none
    else
      let (digits, rest) := digitRun (Implicit.unsigned s)
      let size : Int := Text.ofDigits digits
      if digits = [] ∨ rest ≠ [] then none
      else some (if s.head? = some '-' then -size else size)

/-- A number without its sign, all letters in lower case. -/
def ofUnsigned? (negative : Bool) (s : List Char) : Option Quantity :=
  if s = "inf".toList ∨ s = "infinity".toList then some (.infinite negative)
  else if s = "nan".toList then some .undefined
  else do
    let (whole, rest) := digitRun s
    let (fraction, rest) := if rest.head? = some '.' then digitRun rest.tail else ([], rest)
    if whole = [] ∧ fraction = [] then none
    let digits := whole ++ fraction
    let exponent := (← exponent? rest) - fraction.length
    return ofDigits negative (Text.ofDigits digits) digits.length exponent

/-- The number that a text in lower case writes, if it writes one. -/
def ofText? (s : List Char) : Option Quantity :=
  let s := Text.trimBlanks s
  ofUnsigned? (s.head? = some '-') (Implicit.unsigned s)

/-- The sum of the parts of a number in base sixty. -/
def ofParts (parts : List Quantity) : Quantity :=
  parts.foldl (fun sum part =>
    match sum, part with
    | .finite sum, .finite part => .finite (sum * 60 + part)
    | _, _ => .undefined) (.finite 0)

/-- The opposite of a number. -/
def negate : Quantity → Quantity
  | .finite value => .finite (-value)
  | .infinite negative => .infinite !negative
  | .undefined => .undefined

/-- The number that a text writes without sign and underscores, in lower case. -/
def ofWritten? (s : List Char) : Except Failure Quantity :=
  let part (s : List Char) : Except Failure Quantity :=
    match ofText? s with
    | some quantity => .ok quantity
    | none => .error (.float s)
  if s = ".inf".toList then .ok (.infinite false)
  else if s = ".nan".toList then .ok .undefined
  else if s.contains ':' then return ofParts (← (Implicit.colonParts s).mapM part)
  else part s

/-- The number that a scalar writes. -/
def read (s : List Char) : Except Failure Quantity := do
  let s := (s.filter (· != '_')).map fun c => Char.ofNat (Text.lowerCode c.toNat)
  if s = [] then throw .emptyNumber
  let quantity ← ofWritten? (Implicit.unsigned s)
  return if s.head? = some '-' then quantity.negate else quantity

end Quantity

namespace Numeral

/-- The value of a digit or a letter in bases above ten. -/
def placeValue? (c : Char) : Option Nat := (Text.digitValue? c).or (Text.hexDigitValue? c)

/-- The letter that may mark a number of the given base, after a zero. -/
def baseLetter (base : Nat) : Char := if base = 2 then 'b' else if base = 8 then 'o' else 'x'

/-- A number without the mark of its base. -/
def withoutMark (base : Nat) : List Char → List Char
  | '0' :: c :: rest => if c.toLower = baseLetter base then rest else '0' :: c :: rest
  | s => s

/-- A number in a base that is a power of two. -/
def inBase (base : Nat) (written : List Char) : Except Failure Int :=
  let s := Text.trimBlanks written
  let places := (withoutMark base (Implicit.unsigned s)).mapM fun c =>
    (placeValue? c).bind fun n => if n < base then some n else none
  match places with
  | none | some [] => .error (.integer base written)
  | some places =>
    let size := places.foldl (fun n place => n * base + place) 0
    .ok (if s.head? = some '-' then -(size : Int) else size)

/-- A number in base ten. -/
def inBaseTen (written : List Char) : Except Failure Int :=
  let digits := (Implicit.unsigned (Text.trimBlanks written)).takeWhile Text.isDecimalDigit
  if Text.maxIntegerDigits < digits.length then .error (.overlongInteger digits.length)
  else
    match Text.readInteger? written with
    | some value => .ok value
    | none => .error (.integer 10 written)

/-- A number without sign and underscores. -/
def ofUnsigned (s : List Char) : Except Failure Int :=
  match s with
  | [] => .error .emptyNumber
  | ['0'] => .ok 0
  | '0' :: 'b' :: rest => inBase 2 rest
  | '0' :: 'x' :: rest => inBase 16 rest
  | '0' :: _ => inBase 8 s
  | _ =>
    if s.contains ':' then
      return (← (Implicit.colonParts s).mapM inBaseTen).foldl (fun n part => n * 60 + part) 0
    else inBaseTen s

/-- The integer that a scalar writes. -/
def read (s : List Char) : Except Failure Int := do
  let s := s.filter (· != '_')
  let size ← ofUnsigned (Implicit.unsigned s)
  return if s.head? = some '-' then -size else size

end Numeral

end Imageboard.Yaml
