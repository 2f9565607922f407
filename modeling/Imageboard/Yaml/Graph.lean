import Imageboard.Yaml.Implicit

/-!
The graph of a YAML document: its nodes by number, each with a tag and either a text or the numbers
of its children. An alias is one more way to a node, so a collection may even hold itself.
-/
namespace Imageboard.Yaml

/-- What a node holds. -/
inductive Content where
  | scalar (text : Option (List Char))
  | sequence (items : List Nat)
  | mapping (entries : List (Nat × Nat))
deriving DecidableEq, Repr

structure Node where
  tag : Tag
  content : Content
deriving DecidableEq, Repr

/-- Nodes in the order in which they start; the first is the root. -/
abbrev Graph := Array Node

namespace Graph

/-- What is kept while a document is read: the tokens that are left, the nodes so far, the anchors
that have been given to nodes, and what the handles of tags stand for. -/
structure Reading where
  tokens : List Token
  nodes : Graph
  anchors : List (List Char × Nat)
  handles : List (List Char × List Char)

abbrev Builder := StateT Reading (Except Failure)

/-- Refuses the text. -/
def refuse {α : Type} : Builder α := throw .malformed

/-- The next token. Tokens stop at trouble. -/
def peek : Builder Token := do
  match (← get).tokens with
  | [] => refuse
  | .trouble failure :: _ => throw failure
  | token :: _ => return token

/-- Drops the next token. -/
def skip : Builder Unit := modify fun r => { r with tokens := r.tokens.tail }

/-- Takes the next token if it is the given one. -/
def accept (token : Token) : Builder Bool := do
  if (← peek) = token then
    skip
    return true
  else return false

/-- Takes the next token, which has to be the given one. -/
def expect (token : Token) : Builder Unit := do
  if !(← accept token) then refuse

/-- Whether the next token is one of the given ones. -/
def isNextAmong (tokens : List Token) : Builder Bool := return tokens.contains (← peek)

/-- Adds a node. -/
def add (node : Node) : Builder Nat := do
  let number := (← get).nodes.size
  modify fun r => { r with nodes := r.nodes.push node }
  return number

/-- Says what a node holds. -/
def fill (number : Nat) (content : Content) : Builder Unit :=
  modify fun r => { r with nodes := r.nodes.modify number ({ · with content }) }

/-- Adds a node for a value that is not written. -/
def addEmpty : Builder Nat := add ⟨Tag.ofPlain [], .scalar (some [])⟩

/-- What stands in front of a node: an anchor and a tag, in either order. -/
structure Properties where
  anchor : Option (List Char)
  tag : Option WrittenTag

def readAnchor : Builder (Option (List Char)) := do
  match ← peek with
  | .anchor name =>
    skip
    return some name
  | _ => return none

def readTag : Builder (Option WrittenTag) := do
  match ← peek with
  | .tag tag =>
    skip
    return some tag
  | _ => return none

def readProperties : Builder Properties := do
  match ← readAnchor with
  | some name => return ⟨some name, ← readTag⟩
  | none =>
    let tag ← readTag
    return ⟨← readAnchor, tag⟩

/-- A tag in full. -/
def resolveTag (tag : WrittenTag) : Builder (List Char) := do
  match tag.handle with
  | none => return tag.suffix
  | some handle =>
    match (← get).handles.lookup handle with
    | none => refuse
    | some start => return start ++ tag.suffix

/-- The tag of a node, if it says more than that the node is no plain scalar. -/
def explicitTag (tag : Option WrittenTag) : Builder (Option (List Char)) := do
  match tag with
  | none => return none
  | some tag => return some (← resolveTag tag)

/-- Whether a tag leaves it to the node what the node is. -/
def leavesOpen (tag : Option (List Char)) : Bool := tag.all (· == ['!'])

/-- The tag of a scalar. What a text looks like decides if the text is plain or the tag says so. -/
def scalarTag (tag : Option (List Char)) (isPlain : Bool) (text : Option (List Char)) : Tag :=
  match tag with
  | none => if isPlain then (text.map Tag.ofPlain).getD .text else .text
  | some tag => if tag = ['!'] then (text.map Tag.ofPlain).getD .text else Tag.ofName tag

/-- The tag of a collection. -/
def collectionTag (tag : Option (List Char)) (otherwise : Tag) : Tag :=
  if leavesOpen tag then otherwise else (tag.map Tag.ofName).getD otherwise

/-- Gives a name to the node that comes next. No name is given twice. -/
def nameNext (anchor : Option (List Char)) : Builder Unit := do
  match anchor with
  | none => return ()
  | some name =>
    if ((← get).anchors.lookup name).isSome then refuse
    modify fun r => { r with anchors := (name, r.nodes.size) :: r.anchors }

/-- Adds a scalar. -/
def addScalar (anchor : Option (List Char)) (tag : Tag) (text : Option (List Char)) :
    Builder Nat := do
  nameNext anchor
  add ⟨tag, .scalar text⟩

/-- Adds a sequence, whose items are read after it has been named. -/
def addSequence (anchor : Option (List Char)) (tag : Tag) (readItems : Builder (List Nat)) :
    Builder Nat := do
  nameNext anchor
  let number ← add ⟨tag, .sequence []⟩
  fill number (.sequence (← readItems))
  return number

/-- Adds a mapping, whose entries are read after it has been named. -/
def addMapping (anchor : Option (List Char)) (tag : Tag)
    (readEntries : Builder (List (Nat × Nat))) : Builder Nat := do
  nameNext anchor
  let number ← add ⟨tag, .mapping []⟩
  fill number (.mapping (← readEntries))
  return number

/-- Where a node may stand: it decides which collections it can be. -/
inductive Position where
  | flow
  | block
  | blockOrEntries
deriving DecidableEq, Repr

/-- Reads a node, or adds an empty one if one of the given tokens is next. -/
def nodeUnless (tokens : List Token) (readNode : Builder Nat) : Builder Nat := do
  if ← isNextAmong tokens then addEmpty else readNode

/-- Reads a value after its mark, or adds an empty one. -/
def valueUnless (tokens : List Token) (readNode : Builder Nat) : Builder Nat := do
  if ← accept .value then nodeUnless tokens readNode else addEmpty

/-- Takes the comma between two entries. -/
def separate (isFirst : Bool) : Builder Unit := if isFirst then return () else expect .flowEntry

mutual

/-- Reads a node. -/
def readNode (position : Position) : Nat → Builder Nat
  | 0 => refuse
  | fuel + 1 => do
    if let .alias name := ← peek then
      skip
      match (← get).anchors.lookup name with
      | none => refuse
      | some number => return number
    let properties ← readProperties
    let tag ← explicitTag properties.tag
    let anchor := properties.anchor
    let isBlock := position != .flow
    match ← peek with
    | .scalar isPlain text =>
      skip
      addScalar anchor (scalarTag tag isPlain text) text
    | .flowSequence =>
      skip
      addSequence anchor (collectionTag tag .sequence) (readFlowItems true fuel)
    | .flowMapping =>
      skip
      addMapping anchor (collectionTag tag .mapping) (readFlowEntries true fuel)
    | token =>
      if token = .blockEntry ∧ position = .blockOrEntries then
        addSequence anchor (collectionTag tag .sequence) (readEntries fuel)
      else if token = .blockSequence ∧ isBlock then
        skip
        addSequence anchor (collectionTag tag .sequence) (readBlockItems fuel)
      else if token = .blockMapping ∧ isBlock then
        skip
        addMapping anchor (collectionTag tag .mapping) (readBlockEntries fuel)
      else if anchor.isSome ∨ tag.isSome then
        let empty := some []
        addScalar anchor (scalarTag tag true empty) empty
      else refuse

/-- Items of a block sequence, up to the end of the block. -/
def readBlockItems : Nat → Builder (List Nat)
  | 0 => refuse
  | fuel + 1 => do
    if ← accept .blockEntry then
      let item ← nodeUnless [.blockEntry, .blockEnd] (readNode .block fuel)
      return item :: (← readBlockItems fuel)
    else
      expect .blockEnd
      return []

/-- Items of a sequence that is not indented below its key. -/
def readEntries : Nat → Builder (List Nat)
  | 0 => refuse
  | fuel + 1 => do
    if ← accept .blockEntry then
      let item ← nodeUnless [.blockEntry, .key, .value, .blockEnd] (readNode .block fuel)
      return item :: (← readEntries fuel)
    else return []

/-- Entries of a block mapping, up to the end of the block. -/
def readBlockEntries : Nat → Builder (List (Nat × Nat))
  | 0 => refuse
  | fuel + 1 => do
    if ← accept .key then
      let ends := [.key, .value, .blockEnd]
      let key ← nodeUnless ends (readNode .blockOrEntries fuel)
      let value ← valueUnless ends (readNode .blockOrEntries fuel)
      return (key, value) :: (← readBlockEntries fuel)
    else
      expect .blockEnd
      return []

/-- Items of a sequence in brackets. An item with a colon is a mapping of one entry. -/
def readFlowItems (isFirst : Bool) : Nat → Builder (List Nat)
  | 0 => refuse
  | fuel + 1 => do
    if ← accept .flowSequenceEnd then return []
    separate isFirst
    if ← accept .flowSequenceEnd then return []
    let item ←
      if ← accept .key then
        addMapping none .mapping do
          let ends := [.flowEntry, .flowSequenceEnd]
          let key ← nodeUnless (.value :: ends) (readNode .flow fuel)
          let value ← valueUnless ends (readNode .flow fuel)
          return [(key, value)]
      else readNode .flow fuel
    return item :: (← readFlowItems false fuel)

/-- Entries of a mapping in brackets. The value of an entry may be missing. -/
def readFlowEntries (isFirst : Bool) : Nat → Builder (List (Nat × Nat))
  | 0 => refuse
  | fuel + 1 => do
    if ← accept .flowMappingEnd then return []
    separate isFirst
    if ← accept .flowMappingEnd then return []
    let ends := [.flowEntry, .flowMappingEnd]
    if ← accept .key then
      let key ← nodeUnless (.value :: ends) (readNode .flow fuel)
      let value ← valueUnless ends (readNode .flow fuel)
      return (key, value) :: (← readFlowEntries false fuel)
    else
      let key ← readNode .flow fuel
      let value ← addEmpty
      return (key, value) :: (← readFlowEntries false fuel)

end

/-- What the handles of tags stand for unless a directive says otherwise. -/
def standardHandles : List (List Char × List Char) :=
  [(['!'], ['!']), (['!', '!'], Tag.namespaceText)]

/-- Directives in front of a document. Each can be given once, and only one major version of the
format is known. -/
def readDirectives (versionGiven : Bool) : Nat → Builder Unit
  | 0 => refuse
  | fuel + 1 => do
    match ← peek with
    | .directive (.version major) =>
      if versionGiven || major != 1 then refuse
      skip
      readDirectives true fuel
    | .directive (.handle name start) =>
      if ((← get).handles.lookup name).isSome then refuse
      skip
      modify fun r => { r with handles := (name, start) :: r.handles }
      readDirectives versionGiven fuel
    | .directive .other =>
      skip
      readDirectives versionGiven fuel
    | _ => return ()

/-- Skips marks that end a document. -/
def skipDocumentEnds : Nat → Builder Unit
  | 0 => return ()
  | fuel + 1 => do if ← accept .documentEnd then skipDocumentEnds fuel

/-- The root of a document that starts without a mark, or with directives and a mark. -/
def readRoot (fuel : Nat) : Builder Unit := do
  let isMarked := match ← peek with
    | .directive _ | .documentStart => true
    | _ => false
  if isMarked then
    readDirectives false fuel
    expect .documentStart
  modify fun r => { r with handles := r.handles ++ standardHandles }
  let startsNone := match ← peek with
    | .directive _ | .documentStart | .documentEnd | .textEnd => true
    | _ => false
  let _ ← if isMarked && startsNone then addEmpty else readNode .block fuel

/-- Reads the only document of a text, if there is one. -/
def readDocument (fuel : Nat) : Builder Unit := do
  if (← peek) = .textEnd then return ()
  readRoot fuel
  skipDocumentEnds fuel
  expect .textEnd

/-- The graph of a text. It has no nodes if the text holds no document. -/
def ofText (text : List Char) : Except Failure Graph := do
  let tokens := tokens text
  let (_, reading) ← (readDocument (2 * tokens.length + 2)).run ⟨tokens, #[], [], []⟩
  return reading.nodes

end Graph

end Imageboard.Yaml
