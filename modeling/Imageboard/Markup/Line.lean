import Imageboard.Markup.Link
import Imageboard.Markup.Span
import Imageboard.Text.Digit

/-!
The grammar of one line. A line is read into pieces without asking anything; looking up its
references comes afterwards, in the order in which they stand. Where a line's pieces end is
therefore independent of every answer.
-/
namespace Imageboard.Markup

/-- A piece of a line: a finished item, or the digits of a reference that is to be looked up. -/
inductive Piece where
  | item (found : LineItem)
  | reference (digits : List Char)
deriving DecidableEq, Repr

/-- What may stand at a place of a line besides plain text. -/
inductive LineRule where
  | styled (style : Style)
  | reference
  | link
deriving DecidableEq, Repr

/-- The alternatives in the order in which they are tried. -/
def LineRule.inOrder : List LineRule :=
  [.styled .strong, .styled .emphasis, .styled .spoiler, .reference, .link, .styled .code]

/-- A reference: two angle brackets and at least one digit. -/
def readReference : Reader (List Char) := fun s => do
  let rest ← dropMarker? ['>', '>'] s
  let digits := rest.takeWhile Text.isAsciiDigit
  if digits = [] then none else some (digits, rest.dropWhile Text.isAsciiDigit)

def LineRule.read : LineRule → Reader Piece
  | .styled style => fun s =>
    (readDelimited style.delimiter s).map fun (content, rest) =>
      (.item (.styled style content), rest)
  | .reference => fun s => (readReference s).map fun (digits, rest) => (.reference digits, rest)
  | .link => fun s => (readLink s).map fun (address, rest) => (.item (.link address), rest)

/-- The characters at which plain text stops, so that the alternatives are tried again. -/
def plainStops : List Char := ['*', '~', '>', '\x60', '\n']

/-- Whether plain text that has begun stops here. -/
def stopsPlain : List Char → Bool
  | [] => true
  | c :: rest => plainStops.contains c || opensLink (c :: rest)

/-- Literal characters up to a stop, the first one taken whatever it is when `forced`. A backslash
makes the next character literal, and is itself at the end of the line. -/
def readLiterals (forced : Bool) : List Char → List Char × List Char
  | [] => ([], [])
  | c :: s =>
    if !forced && stopsPlain (c :: s) then ([], c :: s)
    else if c = '\\' then
      match s with
      | [] => ([c], [])
      | escaped :: rest =>
        if escaped = '\n' then
          let (content, after) := readLiterals false (escaped :: rest)
          (c :: content, after)
        else
          let (content, after) := readLiterals false rest
          (escaped :: content, after)
    else
      let (content, after) := readLiterals false s
      (c :: content, after)

/-- Plain text: at least one character, wherever a line goes on. -/
def readPlain : Reader (List Char)
  | [] => none
  | c :: s => if c = '\n' then none else some (readLiterals true (c :: s))

/-- One piece, the alternatives tried in the given order and plain text last. -/
def readPiece (order : List LineRule) : Reader Piece := fun s =>
  match order.findSome? fun rule => rule.read s with
  | some found => some found
  | none => (readPlain s).map fun (content, rest) => (.item (.plain content), rest)

theorem readReference_progresses : readReference.Progresses := by
  intro s digits rest hs
  obtain ⟨opened, ho, hs⟩ := Option.bind_eq_some_iff.1 hs
  have h1 := length_of_dropMarker? ho
  have h2 : (opened.dropWhile Text.isAsciiDigit).length ≤ opened.length :=
    (List.dropWhile_suffix _).length_le
  grind

theorem LineRule.read_progresses (rule : LineRule) : rule.read.Progresses := by
  cases rule with
  | styled style =>
    exact (readDelimited_progresses style.delimiter_ne_nil).map fun content =>
      Piece.item (.styled style content)
  | reference => exact readReference_progresses.map Piece.reference
  | link => exact readLink_progresses.map fun address => Piece.item (.link address)

theorem length_readLiterals_le (forced : Bool) (s : List Char) :
    (readLiterals forced s).2.length ≤ s.length := by
  fun_induction readLiterals forced s <;> grind

theorem length_readLiterals_lt (c : Char) (s : List Char) :
    (readLiterals true (c :: s)).2.length < (c :: s).length := by
  have h := length_readLiterals_le false
  rw [readLiterals.eq_def]
  simp only [Bool.not_true, Bool.false_and, Bool.false_eq_true, if_false]
  split
  · split
    · simp
    · rename_i escaped rest
      have h1 := h rest
      have h2 := h (escaped :: rest)
      grind
  · have := h s
    grind

theorem readPlain_progresses : readPlain.Progresses := by
  intro s content rest hs
  cases s with
  | nil => simp [readPlain] at hs
  | cons c s =>
    have h := length_readLiterals_lt c s
    simp only [readPlain] at hs
    grind

theorem readPiece_progresses (order : List LineRule) : (readPiece order).Progresses := by
  intro s piece rest hs
  simp only [readPiece] at hs
  split at hs
  · rename_i found h
    obtain ⟨rule, -, hr⟩ := List.exists_of_findSome?_eq_some h
    exact rule.read_progresses s piece rest (hr.trans hs)
  · exact readPlain_progresses.map (fun content => Piece.item (.plain content)) s piece rest hs

/-- The pieces up to the end of the line, which is a newline or the end of the text. -/
def readPieces (order : List LineRule) (s : List Char) : List Piece × List Char :=
  match h : readPiece order s with
  | none => ([], s)
  | some (piece, rest) =>
    have : rest.length < s.length := readPiece_progresses order s piece rest h
    let (pieces, after) := readPieces order rest
    (piece :: pieces, after)
termination_by s.length

theorem length_readPieces_le (order : List LineRule) (s : List Char) :
    (readPieces order s).2.length ≤ s.length := by
  fun_induction readPieces order s <;> grind

/-- A reference written with more digits than a number may have. -/
structure OverlongReference where
  digits : Nat
deriving DecidableEq, Repr

/-- The most digits that a reference may be written with, leading zeros included. -/
def maxReferenceDigits : Nat := 4300

/-- Finds the address of the post with the given number, if there is one. -/
abbrev Lookup (m : Type → Type) := Int → m (Option (List Char))

variable {m : Type → Type} [Monad m]

/-- Finishes a piece, asking for the address of a reference. -/
def Piece.settle (lookup : Lookup m) : Piece → ExceptT OverlongReference m LineItem
  | Piece.item found => pure found
  | .reference digits =>
    if maxReferenceDigits < digits.length then throw ⟨digits.length⟩
    else do
      let id : Int := Text.decimalValue digits
      return .reference id (← lookup id)

/-- Puts an item before others; plain text joins plain text. -/
def joinPlain : LineItem → List LineItem → List LineItem
  | .plain a, .plain b :: rest => .plain (a ++ b) :: rest
  | item, rest => item :: rest

/-- Joins plain texts that stand next to each other. -/
def mergePlain (items : List LineItem) : List LineItem := items.foldr joinPlain []

/-- Finishes the pieces of a line in order. -/
def settlePieces (lookup : Lookup m) (pieces : List Piece) :
    ExceptT OverlongReference m (List LineItem) :=
  return mergePlain (← pieces.mapM (·.settle lookup))

/-- At least one item, up to the end of the line. The items are an action that asks for addresses;
whether there are any and where they end is settled before. -/
def readItemsBy (order : List LineRule) (lookup : Lookup m) :
    Reader (ExceptT OverlongReference m (List LineItem)) := fun s =>
  let (pieces, rest) := readPieces order s
  if pieces = [] then none else some (settlePieces lookup pieces, rest)

/-- The items of a line, the alternatives tried in their usual order. -/
def readItems (lookup : Lookup m) : Reader (ExceptT OverlongReference m (List LineItem)) :=
  readItemsBy LineRule.inOrder lookup

theorem length_readItems_le {lookup : Lookup m} {s rest : List Char}
    {items : ExceptT OverlongReference m (List LineItem)}
    (h : readItems lookup s = some (items, rest)) : rest.length ≤ s.length := by
  have hle := length_readPieces_le LineRule.inOrder s
  simp only [readItems, readItemsBy] at h
  grind

end Imageboard.Markup
