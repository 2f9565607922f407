import Imageboard.Text.CharacterName.Alphabets
import Imageboard.Text.CharacterName.Ancient
import Imageboard.Text.CharacterName.Forms
import Imageboard.Text.CharacterName.Further
import Imageboard.Text.CharacterName.Hieroglyphs
import Imageboard.Text.CharacterName.Kana
import Imageboard.Text.CharacterName.Notation
import Imageboard.Text.CharacterName.Pictographs
import Imageboard.Text.CharacterName.Signs
import Imageboard.Text.CharacterName.Syllabaries
import Imageboard.Text.Digit
import Imageboard.Text.Split

/-!
Characters by their names. Most names stand in tables. The names of ideographs end in their code
points, and the name of a syllable of Hangul is put together from its sounds.
-/
namespace Imageboard.Text

/-- The tables of names, in the order of code points. -/
def nameTables : List String := [
  alphabetNames, syllabaryNames, signNames, kanaNames, formNames, ancientNames, hieroglyphNames,
  notationNames, pictographNames, furtherNames]

/-- The number of words that an entry shares with the one before it. -/
def sharedCount (c : Char) : Nat := if isAsciiDigit c then asciiDigitValue c else c.toNat - 87

/-- The words of an entry, which starts with the number of words that it shares. -/
def entryWords (previous : List (List Char)) : List Char → List (List Char)
  | [] => []
  | c :: rest =>
    previous.take (sharedCount c) ++ if rest = [] then [] else splitAt (· == ' ') rest

/-- The code point and the words of an entry, which follows on the entry before it unless its code
point stands in front. -/
def readEntry (next : Nat) (previous : List (List Char)) (entry : List Char) :
    Nat × List (List Char) :=
  match splitAt (· == ':') (entry.filter (· != '\n')) with
  | [code, rest] => (hexValue code, entryWords previous rest)
  | parts => (next, entryWords previous parts.flatten)

/-- Looks for a name among entries. -/
def findName (words : List (List Char)) : Nat → List (List Char) → List String → Option Nat
  | _, _, [] => none
  | next, previous, entry :: others =>
    let (code, found) := readEntry next previous entry.toList
    if found = words then some code else findName words (code + 1) found others

/-- The character with a name that stands in a table. -/
def tabledName? (name : List Char) : Option Nat :=
  let words := splitAt (· == ' ') (name.map Char.toUpper)
  nameTables.findSome? fun table => findName words 0 [] (table.splitOn ",")

/-- Whether a code point lies in one of several intervals. -/
def inIntervals (intervals : List (Nat × Nat)) (code : Nat) : Bool :=
  intervals.any fun (first, last) => first ≤ code && code ≤ last

/-- Characters whose names end in their code points, and what stands in front. -/
def numberedNames : List (String × List (Nat × Nat)) := [
  ("CJK COMPATIBILITY IDEOGRAPH-", [(0xF900, 0xFA6D), (0xFA70, 0xFAD9), (0x2F800, 0x2FA1D)]),
  ("KHITAN SMALL SCRIPT CHARACTER-", [(0x18B00, 0x18CD5)]),
  ("NUSHU CHARACTER-", [(0x1B170, 0x1B2FB)])]

/-- The code point after the given words, in as many digits as it needs. -/
def numberAfter? (start : String) (name : List Char) : Option Nat :=
  let digits := name.drop start.length
  if start.toList.isPrefixOf name && digits.all isHexDigit && digits.head?.any (· != '0') then
    some (hexValue digits)
  else none

/-- The character with a name that ends in its code point. -/
def numberedName? (name : List Char) : Option Nat :=
  let name := name.map Char.toUpper
  numberedNames.findSome? fun (start, intervals) =>
    (numberAfter? start name).filter (inIntervals intervals)

/-- The ideographs that are not told apart by language. -/
def unifiedIdeographs : List (Nat × Nat) := [
  (0x3400, 0x4DBF), (0x4E00, 0x9FFF), (0x20000, 0x2A6DF), (0x2A700, 0x2B738), (0x2B740, 0x2B81D),
  (0x2B820, 0x2CEA1), (0x2CEB0, 0x2EBE0), (0x30000, 0x3134A)]

/-- A digit as it stands in the name of an ideograph, where letters are capitals. -/
def isCapitalDigit (c : Char) : Bool := isHexDigit c && !('a' ≤ c && c ≤ 'f')

/-- The ideograph with a name, which is written in capitals and ends in four or five digits. -/
def ideographName? (name : List Char) : Option Nat :=
  let start := "CJK UNIFIED IDEOGRAPH-".toList
  let digits := name.drop start.length
  if start.isPrefixOf name && digits.all isCapitalDigit &&
      (digits.length == 4 || digits.length == 5) then
    some (hexValue digits) |>.filter (inIntervals unifiedIdeographs)
  else none

/-- The sounds that a syllable of Hangul starts with. -/
def leadingSounds : List String := [
  "G", "GG", "N", "D", "DD", "R", "M", "B", "BB", "S", "SS", "", "J", "JJ", "C", "K", "T", "P", "H"]

/-- The vowels of syllables of Hangul. -/
def vowelSounds : List String := [
  "A", "AE", "YA", "YAE", "EO", "E", "YEO", "YE", "O", "WA", "WAE", "OE", "YO", "U", "WEO", "WE",
  "WI", "YU", "EU", "YI", "I"]

/-- The sounds that a syllable of Hangul ends with. -/
def trailingSounds : List String := [
  "", "G", "GG", "GS", "N", "NJ", "NH", "D", "L", "LG", "LM", "LB", "LS", "LT", "LP", "LH", "M",
  "B", "BS", "S", "SS", "NG", "J", "C", "K", "T", "P", "H"]

/-- The longest sound at the front of a text, by its number, and what is left after it. -/
def takeSound? (sounds : List String) (s : List Char) : Option (Nat × List Char) :=
  (sounds.zipIdx.filter fun (sound, _) => sound.toList.isPrefixOf s).foldl
    (fun best (sound, number) =>
      let rest := s.drop sound.length
      match best with
      | some (_, bestRest) => if rest.length < bestRest.length then some (number, rest) else best
      | none => some (number, rest))
    none

/-- The syllable of Hangul with a name, which is written in capitals. -/
def syllableName? (name : List Char) : Option Nat := do
  let start := "HANGUL SYLLABLE ".toList
  if !start.isPrefixOf name then none
  let (leading, rest) ← takeSound? leadingSounds (name.drop start.length)
  let (vowel, rest) ← takeSound? vowelSounds rest
  let (trailing, rest) ← takeSound? trailingSounds rest
  if rest ≠ [] then none
  return 0xAC00 + (leading * 21 + vowel) * 28 + trailing

/-- The character with the given name. The case of letters does not matter, except in the names of
ideographs and syllables. -/
def characterNamed? (name : List Char) : Option Nat :=
  (syllableName? name).or <| (ideographName? name).or <| (numberedName? name).or <| tabledName? name

end Imageboard.Text
