import Imageboard.Pattern.CharTest

/-!
Matching by backtracking. A node is tried at a place together with what has to match after it: the
continuation. The first way to match everything wins. A loop does not begin another round at the
position at which its last round began, so every loop ends.
-/
namespace Imageboard.Pattern

/-- The ends of a group. Both are kept apart, since a group that is opened again has a new start
while its old end still stands. -/
structure Capture where
  start : Option Nat
  stop : Option Nat
deriving DecidableEq, Repr

/-- A place in a match: the position reached and the groups captured so far. -/
structure Place where
  position : Nat
  captures : Array Capture
deriving Repr

/-- The part of the text that a group has captured. -/
def Place.span? (place : Place) (group : Nat) : Option (Nat × Nat) :=
  if group = 0 then none
  else
    match place.captures[group - 1]? with
    | some ⟨some start, some stop⟩ => if start ≤ stop then some (start, stop) else none
    | _ => none

/-- Sets the start of a group. -/
def Place.openGroup (place : Place) (group : Nat) : Place :=
  { place with
    captures := place.captures.modify (group - 1) fun c => { c with start := some place.position } }

/-- Sets the end of a group. -/
def Place.closeGroup (place : Place) (group : Nat) : Place :=
  { place with
    captures := place.captures.modify (group - 1) fun c => { c with stop := some place.position } }

/-- What has to match after a node. -/
abbrev Continuation := Place → Option Place

/-- A way to match at a place, given what has to match afterwards. -/
abbrev Matcher := Place → Continuation → Option Place

/-- Whether a character of a text is part of a word. -/
def isWordAt (mode : Mode) (text : Array Char) (position : Nat) : Bool :=
  match text[position]? with
  | none => false
  | some c => Category.word.contains mode c

/-- Whether a position is at an edge. The empty text has no word boundaries, and no insides. -/
def Edge.holds (mode : Mode) (text : Array Char) (position : Nat) : Edge → Bool
  | .textStart => position == 0
  | .textEnd => position == text.size
  | .lineStart => position == 0 || (mode.multiline && text[position - 1]? == some '\n')
  | .lineEnd =>
    position == text.size ||
      (text[position]? == some '\n' && (mode.multiline || position + 1 == text.size))
  | .wordBoundary => text.size != 0 && boundary
  | .insideWord => text.size != 0 && !boundary
where
  boundary : Bool :=
    (position != 0 && isWordAt mode text (position - 1)) != isWordAt mode text position

/-- Whether the text at a position repeats a part of itself. -/
def repeats (mode : Mode) (text : Array Char) (start length position : Nat) : Bool :=
  (List.range length).all fun i =>
    match text[start + i]?, text[position + i]? with
    | some a, some b => sameChar mode a b
    | _, _ => false

/-- Takes one character that passes a test. -/
def matchChar (text : Array Char) (test : Char → Bool) : Matcher := fun place next =>
  match text[place.position]? with
  | none => none
  | some c => if test c then next { place with position := place.position + 1 } else none

/-- Whether a loop may go on after the given number of rounds. -/
def below (most : Option Nat) (count : Nat) : Bool :=
  match most with
  | none => true
  | some most => count < most

/-- Rounds of a loop that takes as many as it can. `last` is where the last round began, once the
least number has been reached. -/
def loopGreedy (body : Matcher) (least : Nat) (most : Option Nat) :
    Nat → Nat → Option Nat → Matcher
  | 0, _, _ => fun _ _ => none
  | fuel + 1, count, last => fun place next =>
    if count < least then
      body place fun place => loopGreedy body least most fuel (count + 1) last place next
    else if below most count && last != some place.position then
      (body place fun after =>
        loopGreedy body least most fuel (count + 1) (some place.position) after next) <|>
          next place
    else next place

/-- Rounds of a loop that takes as few as it can. -/
def loopLazy (body : Matcher) (least : Nat) (most : Option Nat) :
    Nat → Nat → Option Nat → Matcher
  | 0, _, _ => fun _ _ => none
  | fuel + 1, count, last => fun place next =>
    if count < least then
      body place fun place => loopLazy body least most fuel (count + 1) last place next
    else
      next place <|>
        if below most count && last != some place.position then
          body place fun after =>
            loopLazy body least most fuel (count + 1) (some place.position) after next
        else none

/-- Rounds of a loop that never gives back what it has taken. -/
def loopPossessive (body : Matcher) (least : Nat) (most : Option Nat) :
    Nat → Nat → Option Nat → Place → Option Place
  | 0, _, _, _ => none
  | fuel + 1, count, last, place =>
    if count < least then
      (body place some).bind (loopPossessive body least most fuel (count + 1) last)
    else if below most count && last != some place.position then
      match body place some with
      | none => some place
      | some after => loopPossessive body least most fuel (count + 1) (some place.position) after
    else some place

/-- A bound on the rounds of a loop: past the least number each round begins further on. -/
def roundBound (text : Array Char) (least : Nat) : Nat := least + text.size + 3

mutual

/-- Matches a node at a place and then what follows it. -/
def Node.run (text : Array Char) (mode : Mode) (node : Node) : Matcher := fun place next =>
  match node with
  | .char code => matchChar text (charMatches mode code) place next
  | .otherThan code => matchChar text (fun c => !charMatches mode code c) place next
  | .any => matchChar text (dotMatches mode) place next
  | .set negated items => matchChar text (setMatches mode negated items) place next
  | .edge edge => if edge.holds mode text place.position then next place else none
  | .group none on off body => runSequence text (mode.inside on off) body place next
  | .group (some number) on off body =>
    runSequence text (mode.inside on off) body (place.openGroup number) fun place =>
      next (place.closeGroup number)
  | .atomic body => (runSequence text mode body place some).bind next
  | .loop .greedy least most body =>
    loopGreedy (fun place next => runSequence text mode body place next) least most
      (roundBound text least) 0 none place next
  | .loop .lazy least most body =>
    loopLazy (fun place next => runSequence text mode body place next) least most
      (roundBound text least) 0 none place next
  | .loop .possessive least most body =>
    (loopPossessive (fun place next => runSequence text mode body place next) least most
      (roundBound text least) 0 none place).bind next
  | .branch alternatives => runAlternatives text mode alternatives place next
  | .backreference group =>
    match place.span? group with
    | none => none
    | some (start, stop) =>
      if repeats mode text start (stop - start) place.position then
        next { place with position := place.position + (stop - start) }
      else none
  | .lookaround behind negated body =>
    let back := match behind with
      | none => 0
      | some (least, _) => least
    let found :=
      if place.position < back then none
      else runSequence text mode body { place with position := place.position - back } some
    match found, negated with
    | some found, false => next { place with captures := found.captures }
    | none, true => next place
    | _, _ => none
  | .conditional group yes no =>
    if (place.span? group).isSome then runSequence text mode yes place next
    else runSequence text mode no place next

/-- Matches nodes in a row. -/
def runSequence (text : Array Char) (mode : Mode) (nodes : List Node) : Matcher :=
  fun place next =>
    match nodes with
    | [] => next place
    | node :: rest => node.run text mode place fun place => runSequence text mode rest place next

/-- Matches the first alternative that lets everything match. -/
def runAlternatives (text : Array Char) (mode : Mode) (alternatives : List (List Node)) :
    Matcher :=
  fun place next =>
    match alternatives with
    | [] => none
    | nodes :: rest =>
      runSequence text mode nodes place next <|> runAlternatives text mode rest place next

end

end Imageboard.Pattern
