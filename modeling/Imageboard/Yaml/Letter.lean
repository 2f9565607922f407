/-!
Characters of a YAML text. Many rules look at the next character only, where the end of the text
counts as the end of a line.
-/
namespace Imageboard.Yaml

/-- Characters that a text may hold at all. -/
def isAllowed (c : Char) : Bool :=
  let n := c.toNat
  n = 0x9 || n = 0xA || n = 0xD || (0x20 ≤ n && n ≤ 0x7E) || n = 0x85 ||
    (0xA0 ≤ n && n ≤ 0xFFFD) || 0x10000 ≤ n

/-- The byte order mark, which takes no place on its line. -/
def byteOrderMark : Char := '\ufeff'

/-- Characters that end a line. -/
def isBreak (c : Char) : Bool :=
  c == '\n' || c == '\r' || c == '\x85' || c == '\u2028' || c == '\u2029'

/-- Blanks inside a line. -/
def isBlank (c : Char) : Bool := c == ' ' || c == '\t'

/-- Whether a line ends here. -/
def endsLine (next : Option Char) : Bool := next.all isBreak

/-- Whether an item that only a space ends is over here. -/
def endsItem (next : Option Char) : Bool := next.all fun c => isBreak c || c == ' '

/-- Whether a word is over here. -/
def endsWord (next : Option Char) : Bool := next.all fun c => isBreak c || isBlank c

/-- Characters of names. -/
def isNameChar (c : Char) : Bool :=
  ('0' ≤ c && c ≤ '9') || ('A' ≤ c && c ≤ 'Z') || ('a' ≤ c && c ≤ 'z') || c == '-' || c == '_'

/-- Characters of tags that stand for themselves. -/
def isTagChar (c : Char) : Bool := isNameChar c || ";/?:@&=+$,.!~*'()[]".toList.contains c

/-- Brackets and commas, which have a meaning inside of brackets only. -/
def isFlowMark (c : Char) : Bool :=
  c == ',' || c == '[' || c == ']' || c == '\x7b' || c == '\x7d'

/-- Characters that no plain scalar starts with, except some of them before a word. -/
def isIndicator (c : Char) : Bool := isFlowMark c || "-?:#&*!|>'\"%@\x60".toList.contains c

end Imageboard.Yaml
