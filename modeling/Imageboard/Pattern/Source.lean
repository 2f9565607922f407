import Imageboard.Pattern.Node
import Imageboard.Text.Integer

/-!
The text of a pattern or template as a row of tokens. A token is one character, or a backslash with
the character after it; a lone backslash at the end is refused as soon as it comes next.
-/
namespace Imageboard.Pattern

/-- A token. -/
inductive Token where
  | char (c : Char)
  | escape (c : Char)
deriving DecidableEq, Repr

/-- The characters of a token. -/
def Token.text : Token → List Char
  | .char c => [c]
  | .escape c => ['\\', c]

/-- Why a pattern or template was refused: a fault in its writing, or one of the failures that are
told apart from faults. -/
inductive Failure where
  | fault (found : Fault)
  | repetitionTooLarge
  | overlongNumber (digits : Nat)
  | asciiAndUnicode
  | unknownGroupName (name : List Char)
deriving DecidableEq, Repr

/-- The most digits that a repeat count may be written with. -/
def maxCountDigits : Nat := 4300

def Failure.message : Failure → String
  | .fault found => found.message
  | .repetitionTooLarge => "the repetition number is too large"
  | .overlongNumber digits => Text.overlongMessage maxCountDigits digits
  | .asciiAndUnicode => "ASCII and UNICODE flags are incompatible"
  | .unknownGroupName name => "unknown group name " ++ shown name

/-- The whole text and how much of it has been read. -/
structure Source where
  whole : List Char
  position : Nat
  rest : List Char
deriving Repr

namespace Source

/-- The token that comes next. -/
def next (s : Source) : Option Token :=
  match s.rest with
  | [] => none
  | ['\\'] => none
  | c :: d :: _ => some (if c = '\\' then .escape d else .char c)
  | [c] => some (.char c)

/-- The fault with a cause at a position. -/
def faultAt (s : Source) (cause : Cause) (position : Nat) : Failure :=
  .fault ⟨cause, some (s.whole, position)⟩

/-- Refuses a rest that is a lone backslash. -/
def checked (s : Source) : Except Failure Source :=
  if s.rest = ['\\'] then .error (s.faultAt .trailingBackslash (s.whole.length - 1)) else .ok s

/-- The start of a text. -/
def ofText (text : List Char) : Except Failure Source := checked ⟨text, 0, text⟩

/-- Moves past the next token, if there is one. -/
def advance (s : Source) : Except Failure Source :=
  match s.next with
  | none => .ok s
  | some token =>
    let n := token.text.length
    checked { s with position := s.position + n, rest := s.rest.drop n }

end Source

/-- Reading with a state that holds a source. -/
class HasSource (σ : Type) where
  source : σ → Source
  setSource : Source → σ → σ

instance : HasSource Source where
  source := id
  setSource s _ := s

/-- A reader of tokens. -/
abbrev ReadM (σ : Type) := StateT σ (Except Failure)

variable {σ : Type} [HasSource σ]

/-- The token that comes next. -/
def peek : ReadM σ (Option Token) := return (HasSource.source (← get)).next

/-- The position of the next token. -/
def tell : ReadM σ Nat := return (HasSource.source (← get)).position

/-- Fails with a cause at a position. -/
def failAt {α : Type} (cause : Cause) (position : Nat) : ReadM σ α := do
  throw ((HasSource.source (← get)).faultAt cause position)

/-- Fails with a cause at the next token. -/
def failHere {α : Type} (cause : Cause) : ReadM σ α := do
  failAt cause (← tell)

/-- Takes the next token, if there is one. -/
def take : ReadM σ (Option Token) := do
  let state ← get
  let source := HasSource.source state
  let after ← source.advance
  set (HasSource.setSource after state)
  return source.next

/-- Takes the next token if it is the given character. -/
def accept (c : Char) : ReadM σ Bool := do
  if (← peek) = some (.char c) then
    discard (take (σ := σ))
    return true
  else return false

/-- Takes at most the given number of characters of a class. -/
def takeUpTo (p : Char → Bool) : Nat → ReadM σ (List Char)
  | 0 => return []
  | n + 1 => do
    match ← peek with
    | some (.char c) =>
      if p c then
        discard (take (σ := σ))
        return c :: (← takeUpTo p n)
      else return []
    | _ => return []

/-- How much is left, which bounds every loop over the source. -/
def remaining : ReadM σ Nat := return (HasSource.source (← get)).rest.length

/-- Takes all characters of a class that come next. -/
def takeAll (p : Char → Bool) : ReadM σ (List Char) := do
  takeUpTo p (← remaining)

/-- The characters of a name up to its terminator, by at most the given number of tokens. -/
def takeName (terminator : Char) (kind : NameKind) (read : List Char) :
    Nat → ReadM σ (List Char)
  | 0 => failHere (.missingName kind)
  | fuel + 1 => do
    match ← take with
    | none =>
      if read = [] then failHere (.missingName kind)
      else failAt (.unterminatedName terminator) ((← tell) - read.length)
    | some token =>
      if token = .char terminator then
        if read = [] then failAt (.missingName kind) ((← tell) - 1) else return read
      else takeName terminator kind (read ++ token.text) fuel

/-- A name that is not empty, up to and with its terminator. -/
def readName (terminator : Char) (kind : NameKind) : ReadM σ (List Char) := do
  takeName terminator kind [] ((← remaining) + 1)

end Imageboard.Pattern
