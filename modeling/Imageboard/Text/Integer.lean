import Imageboard.Text.Blank
import Imageboard.Text.Digit

/-!
Integers as people write them: blanks around, an optional sign, digits of any script, and single
underscores between digits.
-/
namespace Imageboard.Text

/-- The most digits that a written integer may have. -/
def maxIntegerDigits : Nat := 4300

/-- The wording for a number that is written with too many digits. -/
def overlongMessage (limit digits : Nat) : String :=
  s!"Exceeds the limit ({limit} digits) for integer string conversion: " ++
    s!"value has {digits} digits; use sys.set_int_max_str_digits() to increase the limit"

/-- Blanks that may stand around a number: those of ASCII, and every other one beyond ASCII. -/
def isOuterBlank (c : Char) : Bool :=
  isAsciiBlank c || (127 < c.toNat && isBlank c)

/-- The digits of a number in which single underscores may separate digits. -/
def digitGroups? : List Char → Option (List Nat)
  | [] => none
  | [c] => (digitValue? c).map ([·])
  | c :: '_' :: rest => do return (← digitValue? c) :: (← digitGroups? rest)
  | c :: d :: rest => do return (← digitValue? c) :: (← digitGroups? (d :: rest))

/-- The number written by digits of base ten. -/
def ofDigits (digits : List Nat) : Nat := digits.foldl (fun n d => n * 10 + d) 0

/-- A text without the blanks around it. -/
def trimBlanks (s : List Char) : List Char :=
  ((s.dropWhile isOuterBlank).reverse.dropWhile isOuterBlank).reverse

/-- The integer that a text writes, if it writes one. -/
def readInteger? (s : List Char) : Option Int := do
  let (negative, unsigned) := match trimBlanks s with
    | '-' :: rest => (true, rest)
    | '+' :: rest => (false, rest)
    | rest => (false, rest)
  let digits ← digitGroups? unsigned
  if maxIntegerDigits < digits.length then none
  else
    let value : Int := ofDigits digits
    return if negative then -value else value

end Imageboard.Text
