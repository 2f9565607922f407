import Imageboard.Text.Position
import Imageboard.Text.Quoted

/-!
What can be wrong with a pattern or a replacement template, and how it is worded. Most faults name
the position at which they were found.
-/
namespace Imageboard.Pattern

/-- What kind of name a group or character escape asks for. -/
inductive NameKind where
  | group
  | character
deriving DecidableEq, Repr

/-- How eagerly a repeat takes what it can. -/
inductive Greed where
  | greedy
  | lazy
  | possessive
deriving DecidableEq, Repr

/-- A fault in the writing of a pattern or template. -/
inductive Cause where
  | trailingBackslash
  | badEscape (escape : List Char)
  | incompleteEscape (escape : List Char)
  | octalTooLarge (escape : List Char)
  | missingBrace
  | missingAngle
  | missingName (kind : NameKind)
  | unterminatedName (terminator : Char)
  | undefinedCharacterName (name : List Char)
  | badGroupName (name : List Char)
  | unknownGroupName (name : List Char)
  | redefinedGroupName (name : List Char) (group previous : Nat)
  | openGroup
  | lookbehindGroup
  | invalidReference (group : Nat)
  | badGroupNumber
  | thirdBranch
  | unterminatedSet
  | badRange (first last : List Char)
  | nothingToRepeat
  | multipleRepeat
  | reversedBounds
  | unexpectedEnd
  | unknownExtension (opening : List Char)
  | unterminatedComment
  | unterminatedGroup
  | unbalancedParenthesis
  | lateGlobalFlags
  | localeFlag
  | incompatibleFlags
  | missingFlagEnd
  | unknownFlag
  | missingFlag
  | missingColon
  | globalFlagOn
  | typeFlagOff
  | globalFlagOff
  | flagOnAndOff
  | variableLookbehind
  | distantLookbehind
  | repeatInTemplateMode (greed : Greed)
deriving DecidableEq, Repr

/-- The name of a kind of name. -/
def NameKind.words : NameKind → String
  | .group => "group name"
  | .character => "character name"

/-- The name of the operator that a repeat stands for. -/
def Greed.operator : Greed → String
  | .greedy => "MAX_REPEAT"
  | .lazy => "MIN_REPEAT"
  | .possessive => "POSSESSIVE_REPEAT"

/-- A text inside quotes, as it is shown in a wording. -/
def shown (s : List Char) : String := String.ofList (Text.quoted s)

def Cause.words : Cause → String
  | .trailingBackslash => "bad escape (end of pattern)"
  | .badEscape escape => "bad escape " ++ String.ofList escape
  | .incompleteEscape escape => "incomplete escape " ++ String.ofList escape
  | .octalTooLarge escape =>
    "octal escape value " ++ String.ofList escape ++ " outside of range 0-0o377"
  | .missingBrace => "missing \x7b"
  | .missingAngle => "missing <"
  | .missingName kind => "missing " ++ kind.words
  | .unterminatedName terminator => s!"missing {terminator}, unterminated name"
  | .undefinedCharacterName name => "undefined character name " ++ shown name
  | .badGroupName name => "bad character in group name " ++ shown name
  | .unknownGroupName name => "unknown group name " ++ shown name
  | .redefinedGroupName name group previous =>
    "redefinition of group name " ++ shown name ++ s!" as group {group}; was group {previous}"
  | .openGroup => "cannot refer to an open group"
  | .lookbehindGroup => "cannot refer to group defined in the same lookbehind subpattern"
  | .invalidReference group => s!"invalid group reference {group}"
  | .badGroupNumber => "bad group number"
  | .thirdBranch => "conditional backref with more than two branches"
  | .unterminatedSet => "unterminated character set"
  | .badRange first last =>
    "bad character range " ++ String.ofList first ++ "-" ++ String.ofList last
  | .nothingToRepeat => "nothing to repeat"
  | .multipleRepeat => "multiple repeat"
  | .reversedBounds => "min repeat greater than max repeat"
  | .unexpectedEnd => "unexpected end of pattern"
  | .unknownExtension opening => "unknown extension ?" ++ String.ofList opening
  | .unterminatedComment => "missing ), unterminated comment"
  | .unterminatedGroup => "missing ), unterminated subpattern"
  | .unbalancedParenthesis => "unbalanced parenthesis"
  | .lateGlobalFlags => "global flags not at the start of the expression"
  | .localeFlag => "bad inline flags: cannot use 'L' flag with a str pattern"
  | .incompatibleFlags => "bad inline flags: flags 'a', 'u' and 'L' are incompatible"
  | .missingFlagEnd => "missing -, : or )"
  | .unknownFlag => "unknown flag"
  | .missingFlag => "missing flag"
  | .missingColon => "missing :"
  | .globalFlagOn => "bad inline flags: cannot turn on global flag"
  | .typeFlagOff => "bad inline flags: cannot turn off flags 'a', 'u' and 'L'"
  | .globalFlagOff => "bad inline flags: cannot turn off global flag"
  | .flagOnAndOff => "bad inline flags: flag turned on and off"
  | .variableLookbehind => "look-behind requires fixed-width pattern"
  | .distantLookbehind => "looks too much behind"
  | .repeatInTemplateMode greed => "internal: unsupported template operator " ++ greed.operator

/-- A fault, and where in which text it was found if it has a place. -/
structure Fault where
  cause : Cause
  place : Option (List Char × Nat)
deriving DecidableEq, Repr

/-- The wording of a fault. Lines and columns are given for texts of several lines only. -/
def Fault.message (fault : Fault) : String :=
  match fault.place with
  | none => fault.cause.words
  | some (text, position) =>
    let placed := s!"{fault.cause.words} at position {position}"
    if text.contains '\n' then
      let line := Text.lineAt text position
      let column := Text.columnAt text position
      s!"{placed} (line {line}, column {column})"
    else placed

end Imageboard.Pattern
