/-!
Base 64, read leniently: characters outside of its alphabet are skipped, and reading stops at the
padding that completes a group.
-/
namespace Imageboard.Text

/-- The value of a digit of base 64. -/
def base64Value? (c : Char) : Option Nat :=
  if 'A' ≤ c && c ≤ 'Z' then some (c.toNat - 65)
  else if 'a' ≤ c && c ≤ 'z' then some (c.toNat - 71)
  else if '0' ≤ c && c ≤ '9' then some (c.toNat + 4)
  else if c = '+' then some 62
  else if c = '/' then some 63
  else none

/-- The bytes of whole and partial groups of digits: four digits make three bytes. -/
def groupBytes : List Nat → List UInt8
  | a :: b :: c :: d :: rest =>
    (a * 4 + b / 16).toUInt8 :: (b * 16 + c / 4).toUInt8 :: (c * 64 + d).toUInt8 :: groupBytes rest
  | [a, b, c] => [(a * 4 + b / 16).toUInt8, (b * 16 + c / 4).toUInt8]
  | [a, b] => [(a * 4 + b / 16).toUInt8]
  | _ => []

/-- The digits up to the padding that completes a group. None if the last group is not complete;
`place` is the number of digits in the group so far, `padding` the number of padding characters
since its last digit. -/
def base64Digits? (place padding : Nat) : List Char → Option (List Nat)
  | [] => if place = 0 then some [] else none
  | '=' :: rest =>
    if 2 ≤ place then
      if 4 ≤ place + padding + 1 then some [] else base64Digits? place (padding + 1) rest
    else base64Digits? place padding rest
  | c :: rest =>
    match base64Value? c with
    | none => base64Digits? place padding rest
    | some digit => (base64Digits? ((place + 1) % 4) 0 rest).map (digit :: ·)

/-- The bytes that a text stands for. -/
def readBase64? (s : List Char) : Option (List UInt8) := (base64Digits? 0 0 s).map groupBytes

end Imageboard.Text
