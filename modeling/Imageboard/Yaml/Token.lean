import Imageboard.Yaml.Tag

/-!
Tokens of a YAML text: the marks and scalars that are written, and the starts and ends of blocks,
which only the indentation shows.
-/
namespace Imageboard.Yaml

/-- A token. The last one of a text is its end, or the trouble that keeps the text from being read
further. -/
inductive Token where
  | directive (directive : Directive)
  | documentStart
  | documentEnd
  | textEnd
  | blockSequence
  | blockMapping
  | blockEnd
  | flowSequence
  | flowSequenceEnd
  | flowMapping
  | flowMappingEnd
  | flowEntry
  | blockEntry
  | key
  | value
  | alias (name : List Char)
  | anchor (name : List Char)
  | tag (tag : WrittenTag)
  | scalar (isPlain : Bool) (text : Option (List Char))
  | trouble (failure : Failure)
deriving DecidableEq, Repr

end Imageboard.Yaml
