import Imageboard.Pattern.Source
import Imageboard.Text.Alphanumeric
import Imageboard.Text.CharacterName
import Imageboard.Text.Identifier
import Imageboard.Text.Integer

/-!
Reading a pattern: alternatives of sequences of nodes. Every fault is found where it stands, and the
first one in reading order is reported.
-/
namespace Imageboard.Pattern

/-- What has been read so far: the flags of the whole pattern, the widths and names of its groups,
the number of groups that a lookbehind may refer to while one is open, and the group numbers that
conditions have named, with their positions. -/
structure Reading where
  source : Source
  flags : List Flag
  groups : GroupWidths
  names : List (List Char × Nat)
  lookbehindGroups : Option Nat
  conditions : List (Nat × Nat)

instance : HasSource Reading where
  source := Reading.source
  setSource source reading := { reading with source }

abbrev Reader := ReadM Reading

/-- What a bare escape letter stands for inside and outside of sets. -/
def controlEscape? : Char → Option Nat
  | 'a' => some 7
  | 'b' => some 8
  | 'f' => some 12
  | 'n' => some 10
  | 'r' => some 13
  | 't' => some 9
  | 'v' => some 11
  | '\\' => some 92
  | _ => none

/-- The class of an escape letter. -/
def categoryEscape? : Char → Option SetItem
  | 'd' => some (.category .digit false)
  | 'D' => some (.category .digit true)
  | 's' => some (.category .blank false)
  | 'S' => some (.category .blank true)
  | 'w' => some (.category .word false)
  | 'W' => some (.category .word true)
  | _ => none

/-- The position of an escape letter. -/
def edgeEscape? : Char → Option Edge
  | 'A' => some .textStart
  | 'b' => some .wordBoundary
  | 'B' => some .insideWord
  | 'Z' => some .textEnd
  | _ => none

/-- The largest code point. -/
def maxCode : Nat := 0x10FFFF

/-- A hexadecimal escape of a fixed number of digits, whose backslash is at `start`. -/
def readHexEscape (letter : Char) (count start : Nat) : Reader Nat := do
  let digits ← takeUpTo Text.isHexDigit count
  let escape := '\\' :: letter :: digits
  if digits.length ≠ count then failAt (.incompleteEscape escape) start
  else
    let code := Text.hexValue digits
    if maxCode < code then failAt (.badEscape escape) start else return code

/-- A character by its name. -/
def readNamedEscape : Reader Nat := do
  if ← accept '\x7b' then
    let name ← readName '\x7d' .character
    match Text.characterNamed? name with
    | some code => return code
    | none => failAt (.undefinedCharacterName name) ((← tell) - (name.length + 4))
  else failHere .missingBrace

/-- The escapes that mean the same inside and outside of sets. -/
def readCodeEscape? (c : Char) (start : Nat) : Reader (Option Nat) := do
  match c with
  | 'x' => return some (← readHexEscape c 2 start)
  | 'u' => return some (← readHexEscape c 4 start)
  | 'U' => return some (← readHexEscape c 8 start)
  | 'N' => return some (← readNamedEscape)
  | _ => return none

/-- The code that octal digits write, which has to fit into one byte. -/
def octalCode (digits : List Char) (start : Nat) : Reader Nat :=
  let code := Text.octalValue digits
  if 0o377 < code then failAt (.octalTooLarge ('\\' :: digits)) start else return code

/-- An escape that stands for its own character, unless it is a letter. -/
def literalEscape (c : Char) (start : Nat) : Reader Nat :=
  if Text.isAsciiLetter c then failAt (.badEscape ['\\', c]) start else return c.toNat

/-- An escape inside a set. -/
def readSetEscape (c : Char) (start : Nat) : Reader SetItem := do
  if let some code := controlEscape? c then return .char code
  if let some item := categoryEscape? c then return item
  if let some code ← readCodeEscape? c start then return .char code
  if Text.isOctalDigit c then
    return .char (← octalCode (c :: (← takeUpTo Text.isOctalDigit 2)) start)
  if Text.isAsciiDigit c then failAt (.badEscape ['\\', c]) start
  return .char (← literalEscape c start)

/-- Refuses a reference from inside a lookbehind to a group that is open or that the same
lookbehind defines. -/
def checkLookbehind (number : Nat) : Reader Unit := do
  let reading ← get
  match reading.lookbehindGroups with
  | none => return ()
  | some limit =>
    if (closedWidth? reading.groups number).isNone then failHere .openGroup
    else if limit ≤ number then failHere .lookbehindGroup
    else return ()

/-- A reference by number; the digits start at `start + 1`. -/
def numberedReference (digits : List Char) (start : Nat) : Reader Node := do
  let number := Text.decimalValue digits
  let reading ← get
  if number ≤ reading.groups.length then
    if (closedWidth? reading.groups number).isNone then failAt .openGroup start
    checkLookbehind number
    return .backreference number
  else failAt (.invalidReference number) (start + 1)

/-- An escape that opens with a digit other than zero: three octal digits are a character, anything
else refers to a group. -/
def readDigitEscape (c : Char) (start : Nat) : Reader Node := do
  match ← takeUpTo Text.isAsciiDigit 1 with
  | [d] =>
    if Text.isOctalDigit c && Text.isOctalDigit d then
      match ← takeUpTo Text.isOctalDigit 1 with
      | [e] => return .char (← octalCode [c, d, e] start)
      | _ => numberedReference [c, d] start
    else numberedReference [c, d] start
  | _ => numberedReference [c] start

/-- An escape outside of sets. -/
def readEscape (c : Char) (start : Nat) : Reader Node := do
  if let some edge := edgeEscape? c then return .edge edge
  if let some item := categoryEscape? c then return .set false [item]
  if let some code := controlEscape? c then return .char code
  if let some code ← readCodeEscape? c start then return .char code
  if c = '0' then return .char (Text.octalValue (← takeUpTo Text.isOctalDigit 2))
  if Text.isAsciiDigit c then readDigitEscape c start
  else return .char (← literalEscape c start)

/-- One end of a range, or a whole item of a set. -/
def readSetItem (token : Token) : Reader SetItem := do
  match token with
  | .char c => return .char c.toNat
  | .escape c => readSetEscape c ((← tell) - 2)

/-- The items of a set up to its bracket; the set opened at `start`. -/
def readSetItems (start : Nat) (items : List SetItem) : Nat → Reader (List SetItem)
  | 0 => failAt .unterminatedSet start
  | fuel + 1 => do
    let some first ← take | failAt .unterminatedSet start
    if first = .char ']' && !items.isEmpty then return items
    let low ← readSetItem first
    if ← accept '-' then
      let some last ← take | failAt .unterminatedSet start
      if last = .char ']' then return items ++ [low, .char '-'.toNat]
      let high ← readSetItem last
      let position := (← tell) - (first.text.length + 1 + last.text.length)
      match low, high with
      | .char low, .char high =>
        if high < low then failAt (.badRange first.text last.text) position
        readSetItems start (items ++ [.range low high]) fuel
      | _, _ => failAt (.badRange first.text last.text) position
    else readSetItems start (items ++ [low]) fuel

/-- A set, whose opening bracket is at `start` and has been taken. -/
def readSet (start : Nat) : Reader Node := do
  let negated ← accept '^'
  let items := (← readSetItems start [] ((← remaining) + 1)).eraseDups
  match items with
  | [.char code] => return if negated then .otherThan code else .char code
  | _ => return .set negated items

/-- Bounds of a repeat. -/
structure Bounds where
  least : Nat
  most : Option Nat

/-- A repeat count, if any digits are given. -/
def readCount (digits : List Char) : Reader (Option Nat) := do
  if digits = [] then return none
  if maxCountDigits < digits.length then throw (.overlongNumber digits.length)
  let count := Text.decimalValue digits
  if maxRepeat ≤ count then throw .repetitionTooLarge
  return some count

/-- Bounds in braces. Without a proper end the brace is literal, and nothing has been read. -/
def readBounds : Reader (Option Bounds) := do
  let before ← get
  if (← peek) = some (.char '\x7d') then return none
  let low ← takeAll Text.isAsciiDigit
  let high ← if ← accept ',' then takeAll Text.isAsciiDigit else pure low
  if ← accept '\x7d' then
    let least ← readCount low
    let most ← readCount high
    if let (some least, some most) := (least, most) then
      if most < least then failAt .reversedBounds before.source.position
    return some ⟨least.getD 0, most⟩
  else
    set before
    return none

/-- The bounds that a repeat operator stands for, none when it is a literal brace. -/
def readOperator (c : Char) : Reader (Option Bounds) := do
  match c with
  | '?' => return some ⟨0, some 1⟩
  | '*' => return some ⟨0, none⟩
  | '+' => return some ⟨1, none⟩
  | _ => readBounds

/-- The nodes that a repeat of a node repeats: a plain group gives way to its body. -/
def loopBody : Node → List Node
  | .group none [] [] body => body
  | node => [node]

/-- How a repeat goes about its rounds, by the mark after its operator. -/
def readGreed : Reader Greed := do
  if ← accept '?' then return .lazy
  if ← accept '+' then return .possessive
  return .greedy

/-- A repeat of the last node read, whose operator is at `start`. -/
def readLoop (bounds : Bounds) (start : Nat) (previous : Option Node) : Reader Node := do
  match previous with
  | none | some (.edge _) => failAt .nothingToRepeat start
  | some (.loop ..) => failAt .multipleRepeat start
  | some node =>
    let greed ← readGreed
    return .loop greed bounds.least bounds.most (loopBody node)

/-- Characters that verbose patterns skip. -/
def isVerboseBlank (token : Token) : Bool :=
  match token with
  | .char c => Text.isAsciiBlank c
  | .escape _ => false

/-- Takes tokens up to and with the given character; whether it was found. -/
def skipPast (c : Char) : Nat → Reader Bool
  | 0 => return false
  | fuel + 1 => do
    match ← take with
    | none => return false
    | some token => if token = .char c then return true else skipPast c fuel

/-- The cause for a character where a flag had to stand. -/
def strayFlag (token : Token) (otherwise : Cause) : Cause :=
  match token with
  | .char c => if Text.isLetter c then .unknownFlag else otherwise
  | .escape _ => otherwise

/-- The flag of a token. -/
def flagOf? : Token → Option Flag
  | .char c => Flag.ofChar? c
  | .escape _ => none

/-- The next token as a flag. -/
def readFlag (otherwise : Cause) (token : Token) : Reader Flag := do
  match flagOf? token with
  | some flag => return flag
  | none => failAt (strayFlag token otherwise) ((← tell) - token.text.length)

/-- Flags that are turned on, up to the character after them. -/
def readFlagsOn (first : Flag) (on : List Flag) : Nat → Reader (List Flag × Char)
  | 0 => failHere .missingFlagEnd
  | fuel + 1 => do
    if first = .locale then failHere .localeFlag
    let on := on ++ [first]
    if first.isType && on.any (fun flag => flag.isType && flag ≠ first) then
      failHere .incompatibleFlags
    match ← take with
    | none => failHere .missingFlagEnd
    | some (.char ')') => return (on, ')')
    | some (.char '-') => return (on, '-')
    | some (.char ':') => return (on, ':')
    | some token => readFlagsOn (← readFlag .missingFlagEnd token) on fuel

/-- Flags that are turned off, up to the colon after them. -/
def readFlagsOff (first : Flag) (off : List Flag) : Nat → Reader (List Flag)
  | 0 => failHere .missingColon
  | fuel + 1 => do
    if first.isType then failHere .typeFlagOff
    let off := off ++ [first]
    match ← take with
    | none => failHere .missingColon
    | some (.char ':') => return off
    | some token => readFlagsOff (← readFlag .missingColon token) off fuel

/-- Flags after a question mark: of the whole pattern, or on and off for a group. -/
inductive FlagGroup where
  | whole (flags : List Flag)
  | scoped (on off : List Flag)

/-- Reads the flags of a group whose first token has been taken. -/
def readFlagGroup (first : Token) : Reader FlagGroup := do
  let bound ← remaining
  let (on, after) ← match flagOf? first with
    | some flag => readFlagsOn flag [] (bound + 1)
    | none => pure ([], '-')
  if after = ')' then return .whole on
  if on.contains .template then failAt .globalFlagOn ((← tell) - 1)
  let off ← if after = '-' then do
      let some token ← take | failHere .missingFlag
      readFlagsOff (← readFlag .missingFlag token) [] (bound + 1)
    else pure []
  if off.contains .template then failAt .globalFlagOff ((← tell) - 1)
  if on.any off.contains then failAt .flagOnAndOff ((← tell) - 1)
  return .scoped on off

/-- Opens a capturing group and gives its number. -/
def openGroup (name : Option (List Char)) : Reader Nat := do
  let reading ← get
  let number := reading.groups.length + 1
  match name with
  | none => set { reading with groups := reading.groups ++ [none] }
  | some name =>
    match reading.names.lookup name with
    | some previous =>
      failAt (.redefinedGroupName name number previous) ((← tell) - (name.length + 1))
    | none =>
      set { reading with
        groups := reading.groups ++ [none]
        names := reading.names ++ [(name, number)] }
  return number

/-- Closes a capturing group. -/
def closeGroup (number : Nat) (body : List Node) : Reader Unit :=
  modify fun reading =>
    { reading with
      groups := reading.groups.set (number - 1) (some (sequenceWidth reading.groups body)) }

/-- Refuses a name that is no identifier; its terminator has just been taken. -/
def checkGroupName (name : List Char) : Reader Unit := do
  if Text.isIdentifier name then return ()
  else failAt (.badGroupName name) ((← tell) - (name.length + 1))

/-- The number of a group that has been given a name; its terminator has just been taken. -/
def groupNamed (name : List Char) : Reader Nat := do
  match (← get).names.lookup name with
  | some number => return number
  | none => failAt (.unknownGroupName name) ((← tell) - (name.length + 1))

/-- A reference by name. -/
def readNamedReference : Reader Node := do
  let name ← readName ')' .group
  checkGroupName name
  let number ← groupNamed name
  if (closedWidth? (← get).groups number).isNone then
    failAt .openGroup ((← tell) - (name.length + 1))
  checkLookbehind number
  return .backreference number

/-- The group that a condition asks about, by name or by number. -/
def readConditionGroup : Reader Nat := do
  let name ← readName ')' .group
  let position := (← tell) - (name.length + 1)
  if Text.isIdentifier name then groupNamed name
  else
    match Text.readInteger? name with
    | none => failAt (.badGroupName name) position
    | some value =>
      if value < 0 then failAt (.badGroupName name) position
      else if value = 0 then failAt .badGroupNumber position
      else
        let number := value.toNat
        if maxGroups ≤ number then failAt (.invalidReference number) position
        modify fun reading =>
          { reading with conditions := reading.conditions ++ [(number, position)] }
        return number

/-- What a parenthesis can turn out to open. -/
inductive Opening where
  | comment
  | flags (flags : List Flag)
  | done (node : Node)
  | group (name : Option (List Char)) (capture atomic : Bool) (on off : List Flag)
  | lookaround (behind negated : Bool)
  | conditional (group : Nat)

/-- A plain capturing group. -/
def Opening.capture (name : Option (List Char)) : Opening := .group name true false [] []

/-- Reads what follows a parenthesis at `start`, up to where the contents begin. -/
def readOpening (start : Nat) : Reader Opening := do
  if !(← accept '?') then return .capture none
  let some token ← take | failHere .unexpectedEnd
  match token with
  | .char 'P' =>
    if ← accept '<' then
      let name ← readName '>' .group
      checkGroupName name
      return .capture (some name)
    if ← accept '=' then return .done (← readNamedReference)
    let some other ← take | failHere .unexpectedEnd
    failAt (.unknownExtension ('P' :: other.text)) ((← tell) - (other.text.length + 2))
  | .char ':' => return .group none false false [] []
  | .char '#' =>
    if ← skipPast ')' ((← remaining) + 1) then return .comment
    else failAt .unterminatedComment start
  | .char '=' => return .lookaround false false
  | .char '!' => return .lookaround false true
  | .char '<' =>
    let some other ← take | failHere .unexpectedEnd
    match other with
    | .char '=' => return .lookaround true false
    | .char '!' => return .lookaround true true
    | _ => failAt (.unknownExtension ('<' :: other.text)) ((← tell) - (other.text.length + 2))
  | .char '(' => return .conditional (← readConditionGroup)
  | .char '>' => return .group none false true [] []
  | _ =>
    if token = .char '-' || (flagOf? token).isSome then
      match ← readFlagGroup token with
      | .whole flags => return .flags flags
      | .scoped on off => return .group none false false on off
    else failAt (.unknownExtension token.text) ((← tell) - (token.text.length + 1))

/-- Takes the parenthesis that closes a group opened at `start`. -/
def closeParenthesis (start : Nat) : Reader Unit := do
  if ← accept ')' then return () else failAt .unterminatedGroup start

/-- Whether verbose reading is on inside a group. -/
def verboseInside (verbose : Bool) (on off : List Flag) : Bool :=
  (verbose || on.contains .verbose) && !off.contains .verbose

mutual

/-- Alternatives, up to a closing parenthesis or the end. Flags of the whole pattern may open its
first alternative only. -/
def readAlternatives (verbose outermost : Bool) (read : List (List Node)) :
    Nat → Reader (List Node)
  | 0 => failHere .unexpectedEnd
  | fuel + 1 => do
    let alternative ← readSequence verbose (outermost && read.isEmpty) [] fuel
    let read := read ++ [alternative]
    if ← accept '|' then
      let flags := (← get).flags
      let verbose := if outermost then flags.contains .verbose else verbose
      readAlternatives verbose outermost read fuel
    else
      match read with
      | [only] => return only
      | _ => return [.branch read]

/-- Nodes in a row, `read` being those already read, last first. -/
def readSequence (verbose first : Bool) (read : List Node) : Nat → Reader (List Node)
  | 0 => failHere .unexpectedEnd
  | fuel + 1 => do
    let start ← tell
    match ← peek with
    | none | some (.char '|') | some (.char ')') => return read.reverse
    | some token =>
      discard (take (σ := Reading))
      if verbose && isVerboseBlank token then readSequence verbose first read fuel
      else if verbose && token = .char '#' then
        discard (skipPast '\n' ((← remaining) + 1))
        readSequence verbose first read fuel
      else
        match token with
        | .escape c => readSequence verbose first ((← readEscape c start) :: read) fuel
        | .char '[' => readSequence verbose first ((← readSet start) :: read) fuel
        | .char '.' => readSequence verbose first (.any :: read) fuel
        | .char '^' => readSequence verbose first (.edge .lineStart :: read) fuel
        | .char '$' => readSequence verbose first (.edge .lineEnd :: read) fuel
        | .char '(' =>
          match ← readOpening start with
          | .comment => readSequence verbose first read fuel
          | .done node => readSequence verbose first (node :: read) fuel
          | .flags flags =>
            if !first || !read.isEmpty then failAt .lateGlobalFlags start
            modify fun reading => { reading with flags := reading.flags ++ flags }
            readSequence ((← get).flags.contains .verbose) first read fuel
          | .conditional number =>
            checkLookbehind number
            let yes ← readSequence verbose false [] fuel
            let no ← if ← accept '|' then do
                let no ← readSequence verbose false [] fuel
                if (← peek) = some (.char '|') then failHere .thirdBranch
                pure no
              else pure []
            closeParenthesis start
            readSequence verbose first (.conditional number yes no :: read) fuel
          | .lookaround behind negated =>
            let outer := (← get).lookbehindGroups
            if behind && outer.isNone then
              modify fun reading =>
                { reading with lookbehindGroups := some (reading.groups.length + 1) }
            let body ← readAlternatives verbose false [] fuel
            if behind && outer.isNone then
              modify fun reading => { reading with lookbehindGroups := none }
            closeParenthesis start
            let width := sequenceWidth (← get).groups body
            let behind := if behind then some (width.least, width.most) else none
            readSequence verbose first (.lookaround behind negated body :: read) fuel
          | .group name capture atomic on off =>
            let number ← if capture then pure (some (← openGroup name)) else pure none
            let body ← readAlternatives (verboseInside verbose on off) false [] fuel
            closeParenthesis start
            if let some number := number then closeGroup number body
            let node : Node := if atomic then .atomic body else .group number on off body
            readSequence verbose first (node :: read) fuel
        | .char c =>
          if c = '*' || c = '+' || c = '?' || c = '\x7b' then
            match ← readOperator c with
            | none => readSequence verbose first (.char c.toNat :: read) fuel
            | some bounds =>
              let node ← readLoop bounds start read.head?
              readSequence verbose first (node :: read.tail) fuel
          else readSequence verbose first (.char c.toNat :: read) fuel

end

end Imageboard.Pattern
