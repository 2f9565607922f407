/-!
The tree of a post body: blocks, the items on their lines, and the body itself, which always holds
at least one block.
-/
namespace Imageboard.Markup

/-- The styles that a stretch of a line can carry. -/
inductive Style where
  | strong
  | emphasis
  | spoiler
  | code
deriving DecidableEq, Repr

/-- One item of a line. A reference carries the address it was resolved to, if there was one. -/
inductive LineItem where
  | styled (style : Style) (content : List Char)
  | plain (content : List Char)
  | link (address : List Char)
  | reference (id : Int) (address : Option (List Char))
deriving DecidableEq, Repr

/-- The blocks that consist of one line of items. -/
inductive LineKind where
  | header
  | quote
  | paragraph
deriving DecidableEq, Repr

/-- A block: one line of items, or verbatim lines with an optional language. -/
inductive Block where
  | line (kind : LineKind) (items : List LineItem)
  | code (contents : List Char) (language : Option (List Char))
deriving DecidableEq, Repr

/-- The items of a block, none for verbatim lines. -/
def Block.items : Block → List LineItem
  | .line _ items => items
  | .code _ _ => []

/-- A post body is never empty. -/
structure Body where
  blocks : List Block
  blocks_ne_nil : blocks ≠ []

/-- The body of the given blocks, if there are any. -/
def Body.ofBlocks? (blocks : List Block) : Option Body :=
  if h : blocks = [] then none else some ⟨blocks, h⟩

/-- The references of a body in document order, each with its address. -/
def Body.references (body : Body) : List (Int × Option (List Char)) :=
  body.blocks.flatMap fun block => block.items.filterMap fun item =>
    match item with
    | .reference id address => some (id, address)
    | _ => none

theorem Body.ofBlocks?_eq_none_iff (blocks : List Block) :
    Body.ofBlocks? blocks = none ↔ blocks = [] := by
  by_cases h : blocks = [] <;> simp [Body.ofBlocks?, h]

theorem Body.ofBlocks?_eq_some_iff (blocks : List Block) (body : Body) :
    Body.ofBlocks? blocks = some body ↔ body.blocks = blocks := by
  cases body with
  | mk bs h =>
    by_cases hb : blocks = []
    · subst hb
      simp [Body.ofBlocks?, h]
    · simp [Body.ofBlocks?, hb, eq_comm]

end Imageboard.Markup
