import Imageboard.Store.Tables
import Imageboard.Text.Digit

/-!
Tables as one text: the parts of all rows in order, each with its length in front.
-/
namespace Imageboard.Store

/-- A part with its length in front. -/
def writePart (part : List Char) : List Char := Nat.toDigits 10 part.length ++ ':' :: part

/-- A part and what stands after it. -/
def readPart? (s : List Char) : Option (List Char × List Char) :=
  let digits := s.takeWhile Text.isAsciiDigit
  let length := Text.decimalValue digits
  match s.drop digits.length with
  | ':' :: rest => if length ≤ rest.length then some (rest.take length, rest.drop length) else none
  | _ => none

/-- All parts of a text; the fuel is at least its length. -/
def readParts? : Nat → List Char → Option (List (List Char))
  | _, [] => some []
  | 0, _ :: _ => none
  | fuel + 1, s => do
    let (part, rest) ← readPart? s
    return part :: (← readParts? fuel rest)

namespace Tables

/-- The name of a row of a thread. -/
def threadMark : List Char := "thread".toList

/-- The name of a row of a post. -/
def postMark : List Char := "post".toList

def threadParts (row : ThreadRow) : List (List Char) :=
  [threadMark, Nat.toDigits 10 row.id, row.board]

def postParts (row : PostRow) : List (List Char) :=
  [postMark, Nat.toDigits 10 row.id, Nat.toDigits 10 row.thread, row.body, row.html]

/-- Tables as a text. -/
def write (t : Tables) : List Char :=
  (t.threads.flatMap threadParts ++ t.posts.flatMap postParts).flatMap writePart

/-- The posts that parts stand for. -/
def postsOfParts? : List (List Char) → Option (List PostRow)
  | [] => some []
  | mark :: id :: thread :: body :: html :: rest => do
    if mark ≠ postMark then none
    let row : PostRow := ⟨Text.decimalValue id, Text.decimalValue thread, body, html⟩
    return row :: (← postsOfParts? rest)
  | _ => none

/-- The tables that parts stand for. -/
def ofParts? : List (List Char) → Option Tables
  | [] => some empty
  | [mark] => (postsOfParts? [mark]).map fun posts => ⟨[], posts⟩
  | [mark, id] => (postsOfParts? [mark, id]).map fun posts => ⟨[], posts⟩
  | mark :: id :: board :: rest =>
    if mark = threadMark then
      (ofParts? rest).map fun t => ⟨⟨Text.decimalValue id, board⟩ :: t.threads, t.posts⟩
    else (postsOfParts? (mark :: id :: board :: rest)).map fun posts => ⟨[], posts⟩

/-- The tables that a text stands for. -/
def ofText? (s : List Char) : Option Tables := do ofParts? (← readParts? s.length s)

end Tables

end Imageboard.Store
