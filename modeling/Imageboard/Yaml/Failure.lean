import Imageboard.Text.Integer
import Imageboard.Text.Quoted

/-!
What can be wrong with a YAML text. A text is malformed when it breaks a rule of the format; values
that are written in due form can still be out of range.
-/
namespace Imageboard.Yaml

/-- Parts of a date or a time that have bounds. -/
inductive DateFault where
  | year
  | month
  | day
  | hour
  | minute
  | second
  | offset (minutes : Int)
deriving DecidableEq, Repr

/-- A span of minutes, by whole days and the seconds beyond them. -/
def spanText (minutes : Int) : String :=
  let days := minutes.fdiv 1440
  let seconds := minutes.fmod 1440 * 60
  let parts :=
    (if days = 0 then [] else [s!"days={days}"]) ++
      (if seconds = 0 then [] else [s!"seconds={seconds}"])
  "datetime.timedelta(" ++ (if parts = [] then "0" else ", ".intercalate parts) ++ ")"

def DateFault.message : DateFault → String
  | .year => "year 0 is out of range"
  | .month => "month must be in 1..12"
  | .day => "day is out of range for month"
  | .hour => "hour must be in 0..23"
  | .minute => "minute must be in 0..59"
  | .second => "second must be in 0..59"
  | .offset minutes =>
    "offset must be a timedelta strictly between -timedelta(hours=24) and timedelta(hours=24), " ++
      s!"not {spanText minutes}."

/-- The number from which on a code point does not even count as a number of the usual size. -/
def hugeCode : Nat := 0x80000000

/-- Why a text has no value. -/
inductive Failure where
  | malformed
  | codePoint (code : Nat)
  | integer (base : Nat) (written : List Char)
  | overlongInteger (digits : Nat)
  | emptyNumber
  | float (written : List Char)
  | truth (written : List Char)
  | date (fault : DateFault)
  | noDate
deriving DecidableEq, Repr

/-- The wording of a failure, where it has one of its own. -/
def Failure.message? : Failure → Option String
  | .malformed => none
  | .codePoint code =>
    some (if code < hugeCode then "chr() arg not in range(0x110000)"
      else "Python int too large to convert to C int")
  | .integer base written =>
    some (s!"invalid literal for int() with base {base}: " ++
      String.ofList ((Text.quoted written).take 200))
  | .overlongInteger digits => some (Text.overlongMessage Text.maxIntegerDigits digits)
  | .emptyNumber => some "string index out of range"
  | .float written =>
    some ("could not convert string to float: " ++ String.ofList (Text.quoted written))
  | .truth written => some (String.ofList (Text.quoted written))
  | .date fault => some fault.message
  | .noDate => none

end Imageboard.Yaml
