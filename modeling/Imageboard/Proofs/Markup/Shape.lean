import Imageboard.Markup.Html
import Imageboard.Proofs.Html.Reading

/-!
The HTML of a body, read as HTML. Its tags depend on the shape of the body alone; the texts between
them and the values of their attributes are the payloads, each in its place and none of them able to
end what it stands in.
-/
namespace Imageboard.Markup
open Html (Attribute Fragment Tag Token)

/-! ## The shape of a body -/

/-- An item without what it holds. Of a reference only remains whether it has an address. -/
inductive ItemShape where
  | styled (style : Style)
  | plain
  | link
  | reference (linked : Bool)
deriving DecidableEq, Repr

/-- A block without what it holds. Of code only remains whether its language has a name. -/
inductive BlockShape where
  | line (kind : LineKind) (items : List ItemShape)
  | code (named : Bool)
deriving DecidableEq, Repr

def LineItem.shape : LineItem → ItemShape
  | .styled style _ => .styled style
  | .plain _ => .plain
  | .link _ => .link
  | .reference _ address => .reference address.isSome

def Block.shape : Block → BlockShape
  | .line kind items => .line kind (items.map LineItem.shape)
  | .code _ language => .code (language.any (· ≠ []))

def Body.shape (body : Body) : List BlockShape := body.blocks.map Block.shape

/-! ## Tags, by shape alone -/

/-- An opening tag with blank values, and the closing tag. -/
def tagPair (name : String) (attributes : List String) (inner : List Tag) : List Tag :=
  .opening name (attributes.map (⟨·, []⟩)) :: inner ++ [.closing name]

def ItemShape.tags : ItemShape → List Tag
  | .styled .strong => tagPair "strong" [] []
  | .styled .emphasis => tagPair "em" [] []
  | .styled .spoiler => tagPair "span" ["class"] []
  | .styled .code => tagPair "code" [] []
  | .plain => []
  | .link => tagPair "a" ["href", "rel", "target"] []
  | .reference true => tagPair "a" ["class", "href"] []
  | .reference false => tagPair "a" ["class"] []

def BlockShape.tags : BlockShape → List Tag
  | .line .header items => tagPair "h3" [] (items.flatMap ItemShape.tags)
  | .line .quote items => tagPair "blockquote" [] (tagPair "p" [] (items.flatMap ItemShape.tags))
  | .line .paragraph items => tagPair "p" [] (items.flatMap ItemShape.tags)
  | .code true => tagPair "pre" ["class"] (tagPair "code" ["class"] [])
  | .code false => tagPair "pre" ["class"] (tagPair "code" [] [])

/-! ## What stands in attributes and between tags -/

/-- The attributes of an item, with what their values mean. -/
def LineItem.attributes : LineItem → List Attribute
  | .styled .spoiler _ => [⟨"class", "spoiler".toList⟩]
  | .styled _ _ => []
  | .plain _ => []
  | .link address => [⟨"href", address⟩, ⟨"rel", "nofollow noopener".toList⟩,
      ⟨"target", "_blank".toList⟩]
  | .reference _ none => [⟨"class", "post-ref".toList⟩]
  | .reference _ (some address) => [⟨"class", "post-ref".toList⟩, ⟨"href", address⟩]

def Block.attributes : Block → List Attribute
  | .line _ items => items.flatMap LineItem.attributes
  | .code _ language => ⟨"class", "blockcode".toList⟩ ::
      (language.toList.filter (· ≠ [])).map fun word => ⟨"class", "language-".toList ++ word⟩

def Body.attributes (body : Body) : List Attribute := body.blocks.flatMap Block.attributes

/-- The texts before, between and behind tags, with those of an item put in front. Plain text stands
between no tags of its own. -/
def LineItem.textsBefore (texts : List (List Char)) : LineItem → List (List Char)
  | .styled _ content => [] :: content :: texts
  | .plain content => Fragment.joinText content texts
  | .link address => [] :: address :: texts
  | .reference id _ => [] :: decimalText id :: texts

/-- The texts of a line with those of its items in front. -/
def textsOfItems (items : List LineItem) (texts : List (List Char)) : List (List Char) :=
  items.foldr (fun item texts => item.textsBefore texts) texts

def Block.textsBefore (texts : List (List Char)) : Block → List (List Char)
  | .line .quote items => [] :: [] :: textsOfItems items ([] :: [] :: texts)
  | .line _ items => [] :: textsOfItems items ([] :: texts)
  | .code contents _ => [] :: [] :: contents :: [] :: texts

/-- What stands in front of, between and behind the tags of a body. -/
def Body.texts (body : Body) : List (List Char) :=
  body.blocks.foldr (fun block texts => block.textsBefore texts) [[]]

/-! ## Tokens -/

theorem LineItem.tags_toTokens (item : LineItem) :
    (item.toTokens.filterMap Token.tag?).map Tag.blank = item.shape.tags := by
  cases item with
  | styled style content => cases style <;> rfl
  | plain content => rfl
  | link address => rfl
  | reference id address => cases address <;> rfl

theorem LineItem.attributes_toTokens (item : LineItem) :
    (item.toTokens.filterMap Token.tag?).flatMap Tag.attributes = item.attributes := by
  cases item with
  | styled style content => cases style <;> rfl
  | plain content => rfl
  | link address => rfl
  | reference id address => cases address <;> rfl

theorem LineItem.texts_prepend (item : LineItem) (f : Fragment) :
    (f.prepend item.toTokens).texts = item.textsBefore f.texts := by
  cases item with
  | styled style content =>
      cases style <;> simp [toTokens, Style.wrap, textsBefore, Fragment.joinText]
  | plain content => rfl
  | link address => simp [toTokens, textsBefore, Fragment.joinText]
  | reference id address => simp [toTokens, textsBefore, Fragment.joinText]

theorem texts_prepend_items (items : List LineItem) (f : Fragment) :
    (f.prepend (items.flatMap LineItem.toTokens)).texts = textsOfItems items f.texts := by
  induction items with
  | nil => rfl
  | cons item items ih =>
      rw [List.flatMap_cons, Fragment.prepend_append, LineItem.texts_prepend, ih]
      rfl

theorem tags_of_items (items : List LineItem) :
    ((items.flatMap LineItem.toTokens).filterMap Token.tag?).map Tag.blank =
      (items.map LineItem.shape).flatMap ItemShape.tags := by
  simp only [List.filterMap_flatMap, List.map_flatMap, LineItem.tags_toTokens, List.flatMap_map]

theorem attributes_of_items (items : List LineItem) :
    ((items.flatMap LineItem.toTokens).filterMap Token.tag?).flatMap Tag.attributes =
      items.flatMap LineItem.attributes := by
  simp only [List.filterMap_flatMap, List.flatMap_assoc, LineItem.attributes_toTokens]

theorem Block.tags_toTokens (block : Block) :
    (block.toTokens.filterMap Token.tag?).map Tag.blank = block.shape.tags := by
  cases block with
  | line kind items =>
      have hitems := tags_of_items items
      cases kind <;>
        simp [toTokens, LineKind.wrap, Token.tag?, Tag.blank, Tag.mapValues, shape,
          BlockShape.tags, tagPair, ← hitems]
  | code contents language =>
      rcases language with _ | _ | ⟨c, word⟩ <;> rfl

theorem Block.attributes_toTokens (block : Block) :
    (block.toTokens.filterMap Token.tag?).flatMap Tag.attributes = block.attributes := by
  cases block with
  | line kind items =>
      have hitems := attributes_of_items items
      cases kind <;>
        simp [toTokens, LineKind.wrap, Token.tag?, Tag.attributes, attributes, ← hitems]
  | code contents language =>
      rcases language with _ | _ | ⟨c, word⟩ <;> rfl

theorem Block.texts_prepend (block : Block) (f : Fragment) :
    (f.prepend block.toTokens).texts = block.textsBefore f.texts := by
  cases block with
  | line kind items =>
      cases kind <;>
        simp [toTokens, LineKind.wrap, textsBefore, Fragment.prepend_append, texts_prepend_items]
  | code contents language => simp [toTokens, textsBefore, Fragment.joinText]

theorem Body.tags_toTokens (body : Body) :
    (body.toTokens.filterMap Token.tag?).map Tag.blank = body.shape.flatMap BlockShape.tags := by
  simp only [toTokens, shape, List.filterMap_flatMap, List.map_flatMap, Block.tags_toTokens,
    List.flatMap_map]

theorem Body.attributes_toTokens (body : Body) :
    (body.toTokens.filterMap Token.tag?).flatMap Tag.attributes = body.attributes := by
  simp only [toTokens, attributes, List.filterMap_flatMap, List.flatMap_assoc,
    Block.attributes_toTokens]

theorem Body.texts_prepend (body : Body) :
    (Fragment.prepend body.toTokens ⟨[], []⟩).texts = body.texts := by
  rw [toTokens, texts]
  induction body.blocks with
  | nil => rfl
  | cons block blocks ih =>
      rw [List.flatMap_cons, Fragment.prepend_append, Block.texts_prepend, ih, List.foldr_cons]

/-! ## The HTML of a body -/

theorem ItemShape.named (shape : ItemShape) : ∀ tag ∈ shape.tags, tag.Named := by
  cases shape with
  | styled style => cases style <;> decide
  | plain => decide
  | link => decide
  | reference linked => cases linked <;> decide

theorem forall_mem_tagPair {p : Tag → Prop} {name : String} {attributes : List String}
    {inner : List Tag} (hopening : p (.opening name (attributes.map (⟨·, []⟩))))
    (hclosing : p (.closing name)) (hinner : ∀ tag ∈ inner, p tag) :
    ∀ tag ∈ tagPair name attributes inner, p tag := by
  rw [tagPair, List.cons_append, List.forall_mem_cons, List.forall_mem_append,
    List.forall_mem_singleton]
  exact ⟨hopening, hinner, hclosing⟩

theorem BlockShape.named (shape : BlockShape) : ∀ tag ∈ shape.tags, tag.Named := by
  cases shape with
  | line kind items =>
      have hitems : ∀ tag ∈ items.flatMap ItemShape.tags, tag.Named := by
        intro tag ht
        obtain ⟨item, -, ht⟩ := List.mem_flatMap.1 ht
        exact item.named tag ht
      cases kind with
      | header => exact forall_mem_tagPair (by decide) (by decide) hitems
      | quote =>
          exact forall_mem_tagPair (by decide) (by decide)
            (forall_mem_tagPair (by decide) (by decide) hitems)
      | paragraph => exact forall_mem_tagPair (by decide) (by decide) hitems
  | code named => cases named <;> decide

/-- Every tag that is written has a name that is read back. -/
theorem Body.named_toTokens (body : Body) :
    ∀ tag ∈ body.toTokens.filterMap Token.tag?, tag.Named := by
  intro tag ht
  have hblank : tag.blank ∈ body.shape.flatMap BlockShape.tags := by
    rw [← body.tags_toTokens]
    exact List.mem_map_of_mem ht
  obtain ⟨shape, -, hshape⟩ := List.mem_flatMap.1 hblank
  exact (Tag.named_mapValues_iff _ tag).1 (shape.named tag.blank hshape)

/-- The tags and texts that a body is written as, before they are escaped. -/
def Body.fragment (body : Body) : Fragment := Fragment.prepend body.toTokens ⟨[], []⟩

theorem Body.tags_fragment (body : Body) :
    body.fragment.tags = body.toTokens.filterMap Token.tag? := by
  rw [fragment, Fragment.tags_prepend]
  exact List.append_nil _

theorem Body.html_eq_source (body : Body) :
    body.html = (body.fragment.mapTexts Html.escape).source :=
  Html.write_eq_source body.toTokens

theorem Body.read_html_eq (body : Body) :
    Html.read body.html = some (body.fragment.mapTexts Html.escape) := by
  rw [body.html_eq_source]
  exact Html.read_escaped (body.tags_fragment ▸ body.named_toTokens)

/-- No payload changes the markup. The HTML of a body is read as tags that the shape of the body
determines; the texts around them and the values in them are the payloads, in order and escaped, and
hold nothing that could end them. -/
theorem Body.read_html (body : Body) : ∃ found, Html.read body.html = some found ∧
    found.source = body.html ∧
    found.tags.map Tag.blank = body.shape.flatMap BlockShape.tags ∧
    found.texts.map Html.unescape = body.texts ∧
    found.attributes.map (·.mapValue Html.unescape) = body.attributes ∧
    (∀ text ∈ found.texts, Html.Inert text) ∧
    ∀ attr ∈ found.attributes, Html.Inert attr.value := by
  refine ⟨body.fragment.mapTexts Html.escape, body.read_html_eq, body.html_eq_source.symm,
    ?_, ?_, ?_, ?_, ?_⟩
  · have hblank : Tag.blank ∘ Tag.mapValues Html.escape = Tag.blank :=
      funext fun tag => tag.mapValues_mapValues Html.escape fun _ => []
    rw [Fragment.tags_mapTexts, List.map_map, hblank, body.tags_fragment, body.tags_toTokens]
  · rw [← Fragment.texts_mapTexts, Fragment.unescape_mapTexts_escape]
    exact body.texts_prepend
  · rw [← Fragment.attributes_mapTexts, Fragment.unescape_mapTexts_escape, Fragment.attributes,
      body.tags_fragment, body.attributes_toTokens]
  · rw [Fragment.texts_mapTexts]
    exact List.forall_mem_map.2 fun text _ => Html.inert_escape text
  · rw [Fragment.attributes_mapTexts]
    exact List.forall_mem_map.2 fun attr _ => Html.inert_escape attr.value

end Imageboard.Markup
