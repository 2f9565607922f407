import Imageboard.Yaml.BlockText
import Imageboard.Yaml.Plain
import Imageboard.Yaml.Token

/-!
The layout of a YAML text: from characters to tokens. Indentation opens and closes blocks. A colon
turns what stands before it on its line into a key, so a key is marked only after it has been read.
-/
namespace Imageboard.Yaml

/-- A token that may turn out to be a key: its number, its place, and whether it has to be one. -/
structure PossibleKey where
  token : Nat
  required : Bool
  index : Nat
  line : Nat
  column : Nat
deriving DecidableEq, Repr

/-- The longest that a key can be, with the blanks after it. -/
def maxKeyLength : Nat := 1024

/-- What has been read of a text: the place, the tokens so far, last first, the column of the
innermost block and of those around it, which is -1 outside of all blocks, the depth of brackets,
whether a key can start here, and what may be a key at each depth of brackets. -/
structure Layout where
  place : Place
  tokens : List Token
  indent : Int
  outerIndents : List Int
  depth : Nat
  keyAllowed : Bool
  keys : List (Nat × PossibleKey)

namespace Layout

/-- The layout before anything has been read. -/
def start (text : List Char) : Layout := ⟨.start text, [], -1, [], 0, true, []⟩

def column (l : Layout) : Nat := l.place.column

def push (l : Layout) (token : Token) : Layout := { l with tokens := token :: l.tokens }

/-- Puts a token in front of the token with the given number. -/
def insert (l : Layout) (number : Nat) (token : Token) : Layout :=
  let later := l.tokens.length - number
  { l with tokens := l.tokens.take later ++ token :: l.tokens.drop later }

def allowKey (l : Layout) (keyAllowed : Bool) : Layout := { l with keyAllowed }

/-- Moves over marks of the given length. -/
def forward (l : Layout) (count : Nat) : Layout := { l with place := l.place.forward count }

/-- Whether a possible key cannot be one any more: its line has ended, or it is too long. -/
def isStale (p : Place) (key : PossibleKey) : Bool :=
  key.line != p.line || maxKeyLength < p.index - key.index

/-- Forgets the possible keys that cannot be keys any more. -/
def dropStale (l : Layout) : Except Failure Layout :=
  if l.keys.any fun (_, key) => isStale l.place key && key.required then .error .malformed
  else .ok { l with keys := l.keys.filter fun (_, key) => !isStale l.place key }

/-- Forgets the possible key at the present depth. -/
def forgetKey (l : Layout) : Except Failure Layout :=
  match l.keys.lookup l.depth with
  | none => .ok l
  | some key =>
    if key.required then .error .malformed
    else .ok { l with keys := l.keys.filter (·.1 != l.depth) }

/-- Keeps in mind that the next token may be a key. It has to be one where a block goes on. -/
def rememberKey (l : Layout) : Except Failure Layout := do
  if !l.keyAllowed then return l
  let required := l.depth == 0 && l.indent == l.column
  let l ← l.forgetKey
  let p := l.place
  let key : PossibleKey := ⟨l.tokens.length, required, p.index, p.line, p.column⟩
  return { l with keys := (l.depth, key) :: l.keys }

/-- Closes the blocks that are indented deeper than a column. -/
def closeTo (column : Int) : List Int → Layout → Layout
  | [], l => l
  | outer :: others, l =>
    if column < l.indent then
      closeTo column others { l.push .blockEnd with indent := outer, outerIndents := others }
    else l

/-- Closes blocks, unless inside of brackets. -/
def closeBlocks (l : Layout) (column : Int) : Layout :=
  if l.depth = 0 then closeTo column l.outerIndents l else l

/-- Whether a block would start at a column. -/
def opensBlock (l : Layout) (column : Nat) : Bool := l.depth == 0 && l.indent < column

/-- Notes down that a block starts at a column. -/
def indentTo (l : Layout) (column : Nat) : Layout :=
  { l with indent := column, outerIndents := l.indent :: l.outerIndents }

/-- Opens a block here, unless one is open already. -/
def openBlock (l : Layout) (token : Token) : Layout :=
  if l.opensBlock l.column then (l.indentTo l.column).push token else l

/-- Refuses a mark that can only stand where a key can, unless inside of brackets. -/
def requireKeyAllowed (l : Layout) : Except Failure Unit :=
  if l.depth = 0 ∧ !l.keyAllowed then .error .malformed else .ok ()

/-- Runs a reader at the present place. -/
def reading {α : Type} (l : Layout) (reader : Reader α) : Except Failure (α × Layout) := do
  let (found, place) ← reader.run l.place
  return (found, { l with place })

/-- Skips spaces, comments and line ends; whether a line has ended. -/
def skipBlanks : Nat → Reader Bool
  | 0 => return false
  | fuel + 1 => do
    Reader.skipSpaces
    Reader.skipComment
    match ← Reader.lineBreak? with
    | none => return false
    | some _ =>
      let _ ← skipBlanks fuel
      return true

/-- Moves to the next token. Outside of brackets a key can start on each new line. -/
def toNextToken (l : Layout) : Except Failure Layout := do
  let l := if l.place.index = 0 ∧ l.place.peek 0 = some byteOrderMark then l.forward 1 else l
  let (lineEnded, l) ← l.reading (do skipBlanks ((← Reader.remaining) + 1))
  return if lineEnded && l.depth == 0 then l.allowKey true else l

/-- The end of the text. -/
def readTextEnd (l : Layout) : Except Failure Layout :=
  return { (← (l.closeBlocks (-1)).forgetKey).push .textEnd with keyAllowed := false, keys := [] }

def readDirective (l : Layout) : Except Failure Layout := do
  let l ← (l.closeBlocks (-1)).forgetKey
  let (directive, l) ← (l.allowKey false).reading Directive.read
  return l.push (.directive directive)

/-- A mark that starts or ends a document. -/
def readDocumentMark (token : Token) (l : Layout) : Except Failure Layout := do
  let l ← (l.closeBlocks (-1)).forgetKey
  return ((l.allowKey false).forward 3).push token

/-- An opening bracket. -/
def readOpening (token : Token) (l : Layout) : Except Failure Layout := do
  let l ← l.rememberKey
  return (({ l with depth := l.depth + 1 }.allowKey true).forward 1).push token

/-- A closing bracket. Outside of brackets there is nothing to close. -/
def readClosing (token : Token) (l : Layout) : Except Failure Layout := do
  let l ← l.forgetKey
  if l.depth = 0 then throw .malformed
  return (({ l with depth := l.depth - 1 }.allowKey false).forward 1).push token

/-- A comma inside of brackets. -/
def readFlowEntry (l : Layout) : Except Failure Layout := do
  let l ← (l.allowKey true).forgetKey
  return (l.forward 1).push .flowEntry

/-- The dash of an entry. -/
def readBlockEntry (l : Layout) : Except Failure Layout := do
  l.requireKeyAllowed
  let l ← ((l.openBlock .blockSequence).allowKey true).forgetKey
  return (l.forward 1).push .blockEntry

/-- The question mark of a key. -/
def readKeyMark (l : Layout) : Except Failure Layout := do
  l.requireKeyAllowed
  let l := l.openBlock .blockMapping
  let l ← (l.allowKey (l.depth == 0)).forgetKey
  return (l.forward 1).push .key

/-- Marks a token as a key, and as the first one of its mapping where the mapping starts. -/
def markKey (l : Layout) (key : PossibleKey) : Layout :=
  let l := l.insert key.token .key
  if l.opensBlock key.column then (l.indentTo key.column).insert key.token .blockMapping else l

/-- The colon of a value. -/
def readValueMark (l : Layout) : Except Failure Layout := do
  match l.keys.lookup l.depth with
  | some key =>
    let l := { l with keys := l.keys.filter (·.1 != l.depth) }.markKey key
    return ((l.allowKey false).forward 1).push .value
  | none =>
    l.requireKeyAllowed
    let l := l.openBlock .blockMapping
    let l ← (l.allowKey (l.depth == 0)).forgetKey
    return (l.forward 1).push .value

/-- The name after the mark of an anchor or an alias. -/
def readName : Reader (List Char) := do
  Reader.advance 1
  let name ← Reader.takeWhile isNameChar
  let next ← Reader.peek 0
  Reader.require (!name.isEmpty && (endsWord next || next.any "?:,]\x7d%@\x60".toList.contains))
  return name

/-- A token that can start a key, and after which none can start. -/
def readKeyPart {α : Type} (reader : Reader α) (token : α → Token) (l : Layout) :
    Except Failure Layout := do
  let (found, l) ← ((← l.rememberKey).allowKey false).reading reader
  return l.push (token found)

/-- A block scalar, after which a key can start. -/
def readBlockText (folded : Bool) (l : Layout) : Except Failure Layout := do
  let l ← (l.allowKey true).forgetKey
  let (text, l) ← l.reading (BlockText.read folded (max 1 (l.indent + 1).toNat))
  return l.push (.scalar false (some text))

/-- A plain scalar. Where a line ended after it a key can start. -/
def readPlain (l : Layout) : Except Failure Layout := do
  let l ← l.rememberKey
  let ((text, lineEnded), l) ← l.reading (Plain.read (l.depth != 0) (l.indent + 1).toNat)
  return (l.allowKey lineEnded).push (.scalar true (some text))

/-- A mark at the start of a line. -/
def readLineStart? (l : Layout) (c : Char) : Option (Except Failure Layout) :=
  if l.column ≠ 0 then none
  else if c = '%' then some l.readDirective
  else if l.place.atDocumentMark then
    some (l.readDocumentMark (if c = '-' then .documentStart else .documentEnd))
  else none

/-- A bracket or a comma. -/
def readFlowMark? (l : Layout) : Char → Option (Except Failure Layout)
  | '[' => some (l.readOpening .flowSequence)
  | '\x7b' => some (l.readOpening .flowMapping)
  | ']' => some (l.readClosing .flowSequenceEnd)
  | '\x7d' => some (l.readClosing .flowMappingEnd)
  | ',' => some l.readFlowEntry
  | _ => none

/-- A mark of a block; inside of brackets some of them need no blank after them. -/
def readBlockMark? (l : Layout) (c : Char) : Option (Except Failure Layout) :=
  let blankAfter := endsWord (l.place.peek 1)
  if c = '-' ∧ blankAfter then some l.readBlockEntry
  else if c = '?' ∧ (blankAfter ∨ l.depth ≠ 0) then some l.readKeyMark
  else if c = ':' ∧ (blankAfter ∨ l.depth ≠ 0) then some l.readValueMark
  else none

/-- A name, a tag or a scalar that opens with a mark. -/
def readMarked? (l : Layout) : Char → Option (Except Failure Layout)
  | '*' => some (l.readKeyPart readName .alias)
  | '&' => some (l.readKeyPart readName .anchor)
  | '!' => some (l.readKeyPart WrittenTag.read .tag)
  | '\'' => some (l.readKeyPart (Quoted.read '\'') (.scalar false))
  | '"' => some (l.readKeyPart (Quoted.read '"') (.scalar false))
  | '|' => if l.depth = 0 then some (l.readBlockText false) else none
  | '>' => if l.depth = 0 then some (l.readBlockText true) else none
  | _ => none

/-- Reads the token that stands at the present place. -/
def readHere (l : Layout) : Except Failure Layout :=
  match l.place.peek 0 with
  | none => l.readTextEnd
  | some c =>
    ((l.readLineStart? c).or <| (l.readFlowMark? c).or <| (l.readBlockMark? c).or <|
      l.readMarked? c).getD
        (if Plain.startsAt (l.depth != 0) l.place then l.readPlain else .error .malformed)

/-- Reads the next token. -/
def readNext (l : Layout) : Except Failure Layout := do
  let l ← (← l.toNextToken).dropStale
  (l.closeBlocks l.column).readHere

/-- The tokens in order. Where there is trouble they stop before the first token that could still
have become a key. -/
def stopped (l : Layout) (failure : Failure) : List Token :=
  let count := (l.keys.map (·.2.token)).foldl min l.tokens.length
  l.tokens.reverse.take count ++ [.trouble failure]

/-- Reads tokens up to the end of the text. -/
def readAll : Nat → Layout → List Token
  | 0, l => l.stopped .malformed
  | fuel + 1, l =>
    match l.dropStale with
    | .error failure => l.stopped failure
    | .ok l =>
      match l.readNext with
      | .error failure => l.stopped failure
      | .ok l => if l.tokens.head? = some .textEnd then l.tokens.reverse else readAll fuel l

end Layout

/-- The tokens of a text. -/
def tokens (text : List Char) : List Token :=
  if text.all isAllowed then Layout.readAll (text.length + 1) (.start text)
  else [.trouble .malformed]

end Imageboard.Yaml
