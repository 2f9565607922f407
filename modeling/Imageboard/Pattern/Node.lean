import Imageboard.Pattern.Fault

/-!
Patterns as trees, and how many characters a match of one can take.
-/
namespace Imageboard.Pattern

/-- The switches that change how a pattern is read or matched. -/
inductive Flag where
  | ascii
  | ignoreCase
  | locale
  | multiline
  | dotAll
  | template
  | unicode
  | verbose
deriving DecidableEq, Repr

/-- The letter of a flag. -/
def Flag.ofChar? : Char → Option Flag
  | 'a' => some .ascii
  | 'i' => some .ignoreCase
  | 'L' => some .locale
  | 'm' => some .multiline
  | 's' => some .dotAll
  | 't' => some .template
  | 'u' => some .unicode
  | 'x' => some .verbose
  | _ => none

/-- The flags that choose what letters, digits and blanks are. -/
def Flag.isType : Flag → Bool
  | .ascii | .locale | .unicode => true
  | _ => false

/-- Positions at which a pattern can ask to be. -/
inductive Edge where
  | textStart
  | textEnd
  | lineStart
  | lineEnd
  | wordBoundary
  | insideWord
deriving DecidableEq, Repr

/-- The classes of characters that have an escape of their own. -/
inductive Category where
  | digit
  | blank
  | word
deriving DecidableEq, Repr

/-- A member of a character set. Characters are given by code point, since a pattern can name code
points that are no characters. -/
inductive SetItem where
  | char (code : Nat)
  | range (first last : Nat)
  | category (kind : Category) (negated : Bool)
deriving DecidableEq, Repr

/-- A node of a pattern. Groups are counted from one; a lookaround that looks behind carries the
bounds of its width. -/
inductive Node where
  | char (code : Nat)
  | otherThan (code : Nat)
  | any
  | set (negated : Bool) (items : List SetItem)
  | edge (edge : Edge)
  | group (number : Option Nat) (on off : List Flag) (body : List Node)
  | atomic (body : List Node)
  | loop (greed : Greed) (least : Nat) (most : Option Nat) (body : List Node)
  | branch (alternatives : List (List Node))
  | backreference (group : Nat)
  | lookaround (behind : Option (Nat × Nat)) (negated : Bool) (body : List Node)
  | conditional (group : Nat) (yes no : List Node)
deriving Repr

/-- Bounds of the number of characters that a match takes. -/
structure Width where
  least : Nat
  most : Nat
deriving DecidableEq, Repr

/-- No width is counted beyond this bound. -/
def maxWidth : Nat := 0x10000000000000000

/-- A repeat count has to stay below this bound. -/
def maxRepeat : Nat := 0xFFFFFFFF

/-- Group numbers have to stay below this bound. -/
def maxGroups : Nat := 0x7FFFFFFF

/-- The widths of the groups from one on, absent for groups that are still open. -/
abbrev GroupWidths := List (Option Width)

/-- The width of a group that has been closed. -/
def closedWidth? (groups : GroupWidths) (number : Nat) : Option Width :=
  if number = 0 then none else (groups[number - 1]?).join

mutual

def Node.width (groups : GroupWidths) : Node → Width
  | .char _ | .otherThan _ | .any | .set _ _ => ⟨1, 1⟩
  | .edge _ | .lookaround _ _ _ => ⟨0, 0⟩
  | .group _ _ _ body | .atomic body => sequenceWidth groups body
  | .loop _ least most body =>
    let inner := sequenceWidth groups body
    let upper := match most with
      | none => if inner.most = 0 then 0 else maxWidth
      | some most => inner.most * most
    ⟨inner.least * least, upper⟩
  | .branch alternatives =>
    (alternativesWidth groups alternatives).getD ⟨0, 0⟩
  | .backreference group => (closedWidth? groups group).getD ⟨0, 0⟩
  | .conditional _ yes no =>
    let y := sequenceWidth groups yes
    let n := sequenceWidth groups no
    ⟨min y.least n.least, max y.most n.most⟩

/-- The width of nodes in a row. -/
def sequenceWidth (groups : GroupWidths) : List Node → Width
  | [] => ⟨0, 0⟩
  | node :: rest =>
    let first := node.width groups
    let others := sequenceWidth groups rest
    ⟨min (first.least + others.least) maxWidth, min (first.most + others.most) maxWidth⟩

/-- The width that covers all of the alternatives, if there are any. -/
def alternativesWidth (groups : GroupWidths) : List (List Node) → Option Width
  | [] => none
  | alternative :: rest =>
    let first := sequenceWidth groups alternative
    match alternativesWidth groups rest with
    | none => some first
    | some others => some ⟨min first.least others.least, max first.most others.most⟩

end

end Imageboard.Pattern
