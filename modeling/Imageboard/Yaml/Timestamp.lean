import Imageboard.Text.Digit
import Imageboard.Yaml.Failure
import Imageboard.Yaml.Letter

/-!
Dates and times. A date can stand alone; after it a time can follow, with a fraction of a second and
an offset from universal time. A text that looks like a date need not be one of the calendar.
-/
namespace Imageboard.Yaml

/-- The parts of a clock time as they are written, the offset in minutes. -/
structure WrittenTime where
  hour : Nat
  minute : Nat
  second : Nat
  fraction : List Char
  offset : Option Int
deriving DecidableEq, Repr

/-- The parts of a date as they are written. In the strict form all of them have full width. -/
structure WrittenDate where
  year : Nat
  month : Nat
  day : Nat
  isStrict : Bool
  time : Option WrittenTime
deriving DecidableEq, Repr

/-- A date of the calendar with the microseconds since its start, if they are given, and the offset
of the time in minutes. -/
structure Timestamp where
  year : Nat
  month : Nat
  day : Nat
  microseconds : Option Nat
  offset : Option Int
deriving DecidableEq, Repr

namespace WrittenDate

/-- A run of digits whose length lies between two bounds, and what is left after it. -/
def digitRun? (least most : Nat) (s : List Char) : Option (List Char × List Char) :=
  let digits := s.takeWhile Text.isAsciiDigit
  if least ≤ digits.length ∧ digits.length ≤ most then some (digits, s.drop digits.length) else none

/-- One character that has to be there. -/
def after? (c : Char) : List Char → Option (List Char)
  | d :: rest => if d = c then some rest else none
  | [] => none

/-- The two digits after a colon. -/
def afterColon? (s : List Char) : Option (Nat × List Char) := do
  let (digits, rest) ← digitRun? 2 2 (← after? ':' s)
  return (Text.decimalValue digits, rest)

/-- A fraction after its point, which may be missing. -/
def fraction (s : List Char) : List Char × List Char :=
  match after? '.' s with
  | none => ([], s)
  | some rest => (rest.takeWhile Text.isAsciiDigit, rest.dropWhile Text.isAsciiDigit)

/-- An offset up to the end of the text, which may be missing. -/
def offset? (s : List Char) : Option (Option Int) :=
  match s with
  | [] => some none
  | _ =>
    match s.dropWhile isBlank with
    | ['Z'] => some (some 0)
    | sign :: rest => do
      if sign ≠ '+' ∧ sign ≠ '-' then none
      let (hours, rest) ← digitRun? 1 2 rest
      let minutes ← if rest = [] then some 0 else do
        let (minutes, rest) ← afterColon? rest
        if rest = [] then some minutes else none
      let total : Int := Text.decimalValue hours * 60 + minutes
      return some (if sign = '-' then -total else total)
    | [] => none

/-- A time up to the end of the text. -/
def time? (s : List Char) : Option WrittenTime := do
  let (hour, rest) ← digitRun? 1 2 s
  let (minute, rest) ← afterColon? rest
  let (second, rest) ← afterColon? rest
  let (fraction, rest) := fraction rest
  return ⟨Text.decimalValue hour, minute, second, fraction, ← offset? rest⟩

/-- What stands between a date and its time: one letter, or blanks. -/
def timePart? : List Char → Option (List Char)
  | [] => none
  | c :: rest =>
    if c = 'T' ∨ c = 't' then some rest
    else if isBlank c then some (rest.dropWhile isBlank)
    else none

/-- Reads a date, with a time or without. -/
def ofText? (s : List Char) : Option WrittenDate := do
  let (year, rest) ← digitRun? 4 4 s
  let (month, rest) ← digitRun? 1 2 (← after? '-' rest)
  let (day, rest) ← digitRun? 1 2 (← after? '-' rest)
  let isStrict := month.length == 2 && day.length == 2
  let time ← if rest = [] then some none else (timePart? rest).bind fun s => (time? s).map some
  return ⟨Text.decimalValue year, Text.decimalValue month, Text.decimalValue day, isStrict, time⟩

/-- Whether a text looks like a date at once: a date alone has to have the strict form. -/
def isEvident (date : WrittenDate) : Bool := date.isStrict || date.time.isSome

/-- Leap years of the calendar. -/
def isLeapYear (year : Nat) : Bool := year % 4 == 0 && (year % 100 != 0 || year % 400 == 0)

def daysInMonth (year month : Nat) : Nat :=
  if month = 2 then (if isLeapYear year then 29 else 28)
  else if month = 4 ∨ month = 6 ∨ month = 9 ∨ month = 11 then 30
  else 31

/-- The first part of a date that is out of bounds. -/
def dayFault? (date : WrittenDate) : Option DateFault :=
  if date.year = 0 then some .year
  else if date.month = 0 ∨ 12 < date.month then some .month
  else if date.day = 0 ∨ daysInMonth date.year date.month < date.day then some .day
  else none

/-- The first part of a time that is out of bounds, apart from its offset. -/
def timeFault? (time : WrittenTime) : Option DateFault :=
  if 23 < time.hour then some .hour
  else if 59 < time.minute then some .minute
  else if 59 < time.second then some .second
  else none

/-- An offset of a whole day or more. -/
def offsetFault? (time : WrittenTime) : Option DateFault :=
  time.offset.bind fun minutes =>
    if minutes.natAbs < 1440 then none else some (.offset minutes)

/-- The first fault of a date with its time. The offset is looked at before all else. -/
def fault? (date : WrittenDate) : Option DateFault :=
  (date.time.bind offsetFault?).or ((dayFault? date).or (date.time.bind timeFault?))

/-- A fraction of a second in microseconds; further digits do not count. -/
def microseconds (fraction : List Char) : Nat :=
  Text.decimalValue ((fraction ++ List.replicate 6 '0').take 6)

/-- The microseconds since the start of the day. -/
def WrittenTime.sinceMidnight (time : WrittenTime) : Nat :=
  ((time.hour * 60 + time.minute) * 60 + time.second) * 1000000 + microseconds time.fraction

/-- The date of the calendar that is meant. -/
def toTimestamp (date : WrittenDate) : Except DateFault Timestamp :=
  match date.fault? with
  | some fault => .error fault
  | none =>
    .ok ⟨date.year, date.month, date.day, date.time.map WrittenTime.sinceMidnight,
      date.time.bind (·.offset)⟩

end WrittenDate

end Imageboard.Yaml
