/-!
UTF-8, read strictly: the shortest form only, no surrogates, and nothing above the largest code
point. What cannot be read is told with the bytes at fault and their place.
-/
namespace Imageboard.Text

/-- Why bytes are not a text. -/
inductive DecodeReason where
  | startByte
  | continuationByte
  | endOfData
deriving DecidableEq, Repr

def DecodeReason.message : DecodeReason → String
  | .startByte => "invalid start byte"
  | .continuationByte => "invalid continuation byte"
  | .endOfData => "unexpected end of data"

/-- Bytes at fault: where they start, how many there are, and the first of them. -/
structure DecodeFailure where
  position : Nat
  length : Nat
  byte : UInt8
  reason : DecodeReason
deriving DecidableEq, Repr

/-- A byte by its two hexadecimal digits. -/
def hexByte (byte : UInt8) : String :=
  String.ofList [Nat.digitChar (byte.toNat / 16), Nat.digitChar (byte.toNat % 16)]

/-- The wording of a failure. One byte at fault is shown, several are told by their places. -/
def DecodeFailure.message (e : DecodeFailure) : String :=
  let bytes :=
    if e.length = 1 then s!"byte 0x{hexByte e.byte} in position {e.position}"
    else s!"bytes in position {e.position}-{e.position + e.length - 1}"
  s!"'utf-8' codec can't decode {bytes}: {e.reason.message}"

/-- A byte that goes on with a character. -/
def isContinuation (byte : UInt8) : Bool := byte.toNat / 64 == 2

/-- What a first byte announces: the number of bytes that follow, the bits that it holds itself, and
the bounds of the byte after it. -/
def leadByte? (byte : UInt8) : Option (Nat × Nat × Nat × Nat) :=
  let n := byte.toNat
  if n < 0x80 then some (0, n, 0, 0)
  else if n < 0xC2 then none
  else if n < 0xE0 then some (1, n - 0xC0, 0x80, 0xBF)
  else if n < 0xF0 then
    some (2, n - 0xE0, if n = 0xE0 then 0xA0 else 0x80, if n = 0xED then 0x9F else 0xBF)
  else if n < 0xF5 then
    some (3, n - 0xF0, if n = 0xF0 then 0x90 else 0x80, if n = 0xF4 then 0x8F else 0xBF)
  else none

/-- Goes on with a character: the bits so far, the bytes still missing, and the bounds of the next
one. In case of failure, the number of bytes that were right. -/
def continueChar (bits low high : Nat) :
    Nat → List UInt8 → Except (Nat × DecodeReason) (Nat × List UInt8)
  | 0, bytes => .ok (bits, bytes)
  | _ + 1, [] => .error (0, .endOfData)
  | missing + 1, byte :: bytes =>
    if byte.toNat < low ∨ high < byte.toNat then .error (0, .continuationByte)
    else
      match continueChar (bits * 64 + byte.toNat % 64) 0x80 0xBF missing bytes with
      | .ok found => .ok found
      | .error (count, reason) => .error (count + 1, reason)

/-- Reads bytes from the given place on; the fuel is at least their number. -/
def decodeFrom (position : Nat) : Nat → List UInt8 → Except DecodeFailure (List Char)
  | _, [] => .ok []
  | 0, _ :: _ => .ok []
  | fuel + 1, byte :: bytes =>
    match leadByte? byte with
    | none => .error ⟨position, 1, byte, .startByte⟩
    | some (missing, bits, low, high) =>
      match continueChar bits low high missing bytes with
      | .error (count, reason) => .error ⟨position, count + 1, byte, reason⟩
      | .ok (code, rest) =>
        (decodeFrom (position + missing + 1) fuel rest).map (Char.ofNat code :: ·)

/-- The text that bytes stand for. -/
def decodeUtf8 (bytes : List UInt8) : Except DecodeFailure (List Char) :=
  decodeFrom 0 bytes.length bytes

end Imageboard.Text
