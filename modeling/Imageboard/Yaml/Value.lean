import Imageboard.Text.Base64
import Imageboard.Yaml.Graph
import Imageboard.Yaml.Quantity

/-!
Values of YAML documents. A graph is checked as a whole, collection by collection from the root on;
its value is a tree, which shows the graph to a given depth.
-/
namespace Imageboard.Yaml

/-- A value without parts. A broken text holds half of a surrogate pair. -/
inductive Scalar where
  | null
  | truth (value : Bool)
  | integer (value : Int)
  | float (value : Quantity)
  | text (value : List Char)
  | brokenText
  | bytes (value : List UInt8)
  | timestamp (value : Timestamp)
deriving DecidableEq

/-- A value. Only values without parts are keys of mappings and members of sets. -/
inductive Value where
  | scalar (leaf : Scalar)
  | list (items : List Value)
  | mapping (entries : List (Scalar × Value))
  | set (members : List Scalar)

namespace Scalar

/-- Truth values and whole numbers as integers, so that equal keys become the same. -/
def canonical : Scalar → Scalar
  | .truth value => .integer (if value then 1 else 0)
  | .float (.finite value) => if value.den = 1 then .integer value.num else .float (.finite value)
  | other => other

/-- Whether a value counts as nothing. -/
def isEmpty : Scalar → Bool
  | .null => true
  | .truth value => !value
  | .integer value => value == 0
  | .float value => value.isZero
  | .text value => value.isEmpty
  | .bytes value => value.isEmpty
  | .brokenText | .timestamp _ => false

/-- The truth value of a word. -/
def readTruth (s : List Char) : Except Failure Scalar :=
  let word := s.map fun c => Char.ofNat (Text.lowerCode c.toNat)
  match Implicit.truthWords.lookup word with
  | some value => .ok (.truth value)
  | none => .error (.truth word)

def readTimestamp (s : List Char) : Except Failure Scalar :=
  let s := if s.getLast? = some '\n' then s.dropLast else s
  match WrittenDate.ofText? s with
  | none => .error .noDate
  | some date =>
    match date.toTimestamp with
    | .ok found => .ok (.timestamp found)
    | .error fault => .error (.date fault)

def readBytes (s : List Char) : Except Failure Scalar :=
  if s.any (127 < ·.toNat) then .error .malformed
  else
    match Text.readBase64? s with
    | some found => .ok (.bytes found)
    | none => .error .malformed

/-- Reads a text by its tag. Tags of collections, and tags without a meaning for values, have
none. -/
def read (tag : Tag) (s : List Char) : Except Failure Scalar :=
  match tag with
  | .null => .ok .null
  | .truth => readTruth s
  | .integer => (Numeral.read s).map .integer
  | .float => (Quantity.read s).map .float
  | .bytes => readBytes s
  | .timestamp => readTimestamp s
  | .text => .ok (.text s)
  | _ => .error .malformed

/-- Reads a text that may be broken. -/
def read? (tag : Tag) : Option (List Char) → Except Failure Scalar
  | some s => read tag s
  | none =>
    match tag with
    | .null => .ok .null
    | .text => .ok .brokenText
    | _ => .error .malformed

end Scalar

/-- Tags of collections. -/
def Tag.isCollection : Tag → Bool
  | .sequence | .mapping | .set | .orderedMapping | .pairs => true
  | _ => false

namespace Graph

def tagAt (g : Graph) (number : Nat) : Tag := (g[number]?.map (·.tag)).getD .unknown

def contentAt (g : Graph) (number : Nat) : Content :=
  (g[number]?.map (·.content)).getD (.scalar none)

/-- The text of a node. A mapping can have a text of its own, under the key for it. -/
def textAt (g : Graph) : Nat → Nat → Except Failure (Option (List Char))
  | 0, _ => .error .malformed
  | fuel + 1, number =>
    match g.contentAt number with
    | .scalar text => .ok text
    | .sequence _ => .error .malformed
    | .mapping entries =>
      match entries.find? fun (key, _) => g.tagAt key == .value with
      | some (_, value) => textAt g fuel value
      | none => .error .malformed

/-- The value of a node that is no collection. -/
def scalarAt (g : Graph) (number : Nat) : Except Failure Scalar :=
  match g.tagAt number with
  | .merge | .value | .unknown => .error .malformed
  | tag => do Scalar.read? tag (← g.textAt (g.size + 1) number)

/-- The value of a key. The key for the text of a mapping is a text itself. -/
def keyAt (g : Graph) (number : Nat) : Except Failure Scalar :=
  match g.tagAt number with
  | .value => do Scalar.read? .text (← g.textAt (g.size + 1) number)
  | _ => g.scalarAt number

/-- The entries of a mapping, those of the mappings that are merged into it in front of its own. -/
def entriesAt (g : Graph) : Nat → Nat → Except Failure (List (Nat × Nat))
  | 0, _ => .ok []
  | fuel + 1, number =>
    match g.contentAt number with
    | .mapping entries => do
      let merged ← entries.mapM fun (key, value) =>
        if g.tagAt key = .merge then
          match g.contentAt value with
          | .mapping _ => entriesAt g fuel value
          | .sequence items => do return (← items.reverse.mapM (entriesAt g fuel)).flatten
          | .scalar _ => .error .malformed
        else .ok []
      return merged.flatten ++ entries.filter fun (key, _) => g.tagAt key != .merge
    | _ => .error .malformed

/-- A part of a collection: a key, any other node, or a fault in its place. -/
inductive Part where
  | key (number : Nat)
  | node (number : Nat)
  | fault (failure : Failure)

/-- The part for a node that has to be a mapping of one entry. -/
def pairParts (g : Graph) (number : Nat) : List Part :=
  match g.contentAt number with
  | .mapping [(key, value)] => [.node key, .node value]
  | _ => [.fault .malformed]

/-- The parts of a collection in order. -/
def partsAt (g : Graph) (number : Nat) : List Part :=
  match g.tagAt number, g.contentAt number with
  | .sequence, .sequence items => items.map .node
  | .orderedMapping, .sequence items => items.flatMap g.pairParts
  | .pairs, .sequence items => items.flatMap g.pairParts
  | .mapping, _ | .set, _ =>
    match g.entriesAt (g.size + 1) number with
    | .ok entries => entries.flatMap fun (key, value) => [.key key, .node value]
    | .error failure => [.fault failure]
  | _, _ => [.fault .malformed]

/-- Checks a part; collections are only noted down, once each. -/
def checkPart (g : Graph) (noted : List Nat) : Part → Except Failure (List Nat)
  | .fault failure => .error failure
  | .key number => do
    if (g.tagAt number).isCollection then throw .malformed
    let _ ← g.keyAt number
    return noted
  | .node number => do
    if (g.tagAt number).isCollection then
      return if noted.contains number then noted else noted ++ [number]
    let _ ← g.scalarAt number
    return noted

/-- Checks collections in the order in which they are noted down; the first ones are done. -/
def checkFrom (g : Graph) (done : Nat) (noted : List Nat) : Nat → Except Failure Unit
  | 0 => .ok ()
  | fuel + 1 =>
    match noted[done]? with
    | none => .ok ()
    | some number => do
      let noted ← (g.partsAt number).foldlM g.checkPart noted
      checkFrom g (done + 1) noted fuel

/-- Checks all nodes that can be reached from the root. -/
def check (g : Graph) : Except Failure Unit := do
  let noted ← g.checkPart [] (.node 0)
  g.checkFrom 0 noted (g.size + 1)

/-- Puts a member into a set, unless it is in it already. -/
def putMember (members : List Scalar) (member : Scalar) : List Scalar :=
  if members.contains member.canonical then members else members ++ [member.canonical]

/-- Puts an entry into a mapping, in the place of an entry with the same key. -/
def putEntry (entries : List (Scalar × Value)) (entry : Scalar × Value) : List (Scalar × Value) :=
  if entries.any (·.1.canonical == entry.1.canonical) then
    entries.map fun old => if old.1.canonical == entry.1.canonical then (old.1, entry.2) else old
  else entries ++ [entry]

/-- The keys of a mapping with their values, as they are written. -/
def keyedAt (g : Graph) (number : Nat) : List (Scalar × Nat) :=
  match g.entriesAt (g.size + 1) number with
  | .ok entries => entries.map fun (key, value) => ((g.keyAt key).toOption.getD .null, value)
  | .error _ => []

/-- The pairs of a sequence of mappings of one entry. -/
def pairsAt (g : Graph) (number : Nat) : List (Nat × Nat) :=
  match g.contentAt number with
  | .sequence items => items.flatMap fun item =>
    match g.contentAt item with
    | .mapping entries => entries
    | _ => []
  | _ => []

/-- The items of a sequence. -/
def itemsAt (g : Graph) (number : Nat) : List Nat :=
  match g.contentAt number with
  | .sequence items => items
  | _ => []

/-- The members of a set. -/
def membersAt (g : Graph) (number : Nat) : List Scalar :=
  ((g.keyedAt number).map (·.1)).foldl putMember []

/-- The value of a node, given those of the nodes below it. -/
def assemble (g : Graph) (below : Nat → Value) (number : Nat) : Value :=
  match g.tagAt number with
  | .sequence => .list ((g.itemsAt number).map below)
  | .mapping =>
    .mapping (((g.keyedAt number).map fun (key, value) => (key, below value)).foldl putEntry [])
  | .set => .set (g.membersAt number)
  | .orderedMapping | .pairs =>
    .list ((g.pairsAt number).map fun (key, value) => .list [below key, below value])
  | _ => .scalar ((g.scalarAt number).toOption.getD .null)

/-- The value of a node of which nothing below is shown. -/
def outline (g : Graph) (number : Nat) : Value :=
  match g.tagAt number with
  | .sequence | .orderedMapping | .pairs => .list []
  | .mapping => .mapping []
  | .set => .set (g.membersAt number)
  | _ => .scalar ((g.scalarAt number).toOption.getD .null)

/-- The value of a node in a checked graph. Collections below the given depth are shown in
outline. -/
def valueAt (g : Graph) : Nat → Nat → Value
  | 0, number => g.outline number
  | depth + 1, number => g.assemble (g.valueAt depth) number

/-- The value of a checked graph, null if it has no nodes. -/
def value (g : Graph) (depth : Nat) : Value :=
  if g.isEmpty then .scalar .null else g.valueAt depth 0

end Graph

/-- The value of a text to the given depth. -/
def read (depth : Nat) (text : List Char) : Except Failure Value := do
  let graph ← Graph.ofText text
  if !graph.isEmpty then graph.check
  return graph.value depth

namespace Value

/-- Whether a value counts as nothing. -/
def isEmpty : Value → Bool
  | .scalar leaf => leaf.isEmpty
  | .list items => items.isEmpty
  | .mapping entries => entries.isEmpty
  | .set members => members.isEmpty

end Value

end Imageboard.Yaml
