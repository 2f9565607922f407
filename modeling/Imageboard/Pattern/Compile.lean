import Imageboard.Pattern.Matcher
import Imageboard.Pattern.Reader

/-!
Compiled patterns: what has been read from the text of a pattern, once the whole of it has been
found to be in order.
-/
namespace Imageboard

/-- A pattern that is ready to be matched. -/
structure Pattern where
  source : List Char
  nodes : List Pattern.Node
  mode : Pattern.Mode
  groupCount : Nat
  names : List (List Char × Nat)
deriving Repr

namespace Pattern

/-- A fault that concerns a pattern as a whole. -/
def placeless (cause : Cause) : Failure := .fault ⟨cause, none⟩

mutual

/-- Refuses lookbehinds whose width is not fixed, and every repeat in template mode. -/
def Node.check (template : Bool) : Node → Except Failure Unit
  | .char _ | .otherThan _ | .any | .set _ _ | .edge _ | .backreference _ => .ok ()
  | .group _ _ _ body | .atomic body => checkSequence template body
  | .loop greed _ _ body =>
    if template then .error (placeless (.repeatInTemplateMode greed))
    else checkSequence template body
  | .branch alternatives => checkAlternatives template alternatives
  | .lookaround behind _ body =>
    match behind with
    | none => checkSequence template body
    | some (least, most) =>
      if maxRepeat < least then .error (placeless .distantLookbehind)
      else if least ≠ most then .error (placeless .variableLookbehind)
      else checkSequence template body
  | .conditional _ yes no => do
    checkSequence template yes
    checkSequence template no

def checkSequence (template : Bool) : List Node → Except Failure Unit
  | [] => .ok ()
  | node :: rest => do
    node.check template
    checkSequence template rest

def checkAlternatives (template : Bool) : List (List Node) → Except Failure Unit
  | [] => .ok ()
  | alternative :: rest => do
    checkSequence template alternative
    checkAlternatives template rest

end

/-- Reads a pattern and checks it. -/
def compile (text : List Char) : Except Failure Pattern := do
  let source ← Source.ofText text
  let start : Reading := ⟨source, [], [], [], none, []⟩
  let (nodes, reading) ← (readAlternatives false true [] (2 * text.length + 4)).run start
  let flags := reading.flags
  if flags.contains .ascii && flags.contains .unicode then throw .asciiAndUnicode
  if reading.source.next.isSome then
    throw (reading.source.faultAt .unbalancedParenthesis reading.source.position)
  if let some (number, position) := reading.conditions.find? (reading.groups.length < ·.1) then
    throw (reading.source.faultAt (.invalidReference number) position)
  checkSequence (flags.contains .template) nodes
  return ⟨text, nodes, Mode.ofFlags flags, reading.groups.length, reading.names⟩

/-- The match of a pattern at a position, if there is one. When `advancing`, a match that takes
nothing is passed over. -/
def matchAt (pattern : Pattern) (text : Array Char) (position : Nat) (advancing : Bool) :
    Option Place :=
  runSequence text pattern.mode pattern.nodes
    ⟨position, Array.replicate pattern.groupCount ⟨none, none⟩⟩ fun place =>
      if advancing && place.position == position then none else some place

/-- The first match that starts at the given position or at one of the given number of positions
after it, and where it starts. -/
def search (pattern : Pattern) (text : Array Char) (position : Nat) (advancing : Bool) :
    Nat → Option (Nat × Place)
  | 0 => (pattern.matchAt text position advancing).map (position, ·)
  | n + 1 =>
    match pattern.matchAt text position advancing with
    | some place => some (position, place)
    | none => pattern.search text (position + 1) false n

end Pattern

end Imageboard
