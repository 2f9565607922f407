import Imageboard.Proofs.Markup.Shape

/-!
Bodies without the addresses of their references. To take the addresses out of a body is to take
the link out of every anchor of a reference in its HTML: nothing else of the HTML depends on them.
-/
namespace Imageboard

namespace Html

/-- The class of the anchors that references are written as. -/
def referenceClass : Attribute := ⟨"class", "post-ref".toList⟩

/-- The attributes of a tag, without the link if the tag opens the anchor of a reference. -/
def unlinkedAttributes (name : String) (attributes : List Attribute) : List Attribute :=
  if name = "a" ∧ referenceClass ∈ attributes then attributes.filter (·.name ≠ "href")
  else attributes

def Tag.unlinked : Tag → Tag
  | .opening name attributes => .opening name (unlinkedAttributes name attributes)
  | .closing name => .closing name

def Token.unlinked : Token → Token
  | .opening name attributes => .opening name (unlinkedAttributes name attributes)
  | token => token

/-- A fragment with its tags changed. -/
def Fragment.mapTags (f : Tag → Tag) (fragment : Fragment) : Fragment :=
  ⟨fragment.leading, fragment.tagged.map fun (tag, text) => (f tag, text)⟩

/-- HTML without the links of its references, if it can be read. -/
def withoutReferenceLinks (html : List Char) : Option (List Char) :=
  (read html).map fun fragment => (fragment.mapTags Tag.unlinked).source

theorem escape_injective : Function.Injective escape :=
  Function.LeftInverse.injective unescape_escape

/-- Escaping neither makes the class of a reference nor hides it. -/
theorem mapValue_escape_eq_referenceClass_iff (a : Attribute) :
    a.mapValue escape = referenceClass ↔ a = referenceClass := by
  have hclass : referenceClass.mapValue escape = referenceClass := by decide
  constructor
  · intro h
    rw [← hclass] at h
    obtain ⟨hname, hvalue⟩ := Attribute.mk.inj h
    exact congr (congrArg Attribute.mk hname) (escape_injective hvalue)
  · rintro rfl
    exact hclass

theorem unlinkedAttributes_escape (name : String) (attributes : List Attribute) :
    unlinkedAttributes name (attributes.map (·.mapValue escape)) =
      (unlinkedAttributes name attributes).map (·.mapValue escape) := by
  have hmem : referenceClass ∈ attributes.map (·.mapValue escape) ↔
      referenceClass ∈ attributes := by
    simp only [List.mem_map, mapValue_escape_eq_referenceClass_iff, exists_eq_right]
  unfold unlinkedAttributes
  simp only [hmem]
  split
  · rw [List.filter_map]
    rfl
  · rfl

/-- Whether links are taken out before or after escaping is the same. -/
theorem Fragment.mapTags_mapTexts (fragment : Fragment) :
    (fragment.mapTexts escape).mapTags Tag.unlinked =
      (fragment.mapTags Tag.unlinked).mapTexts escape := by
  have htag : ∀ tag : Tag, (tag.mapValues escape).unlinked = tag.unlinked.mapValues escape := by
    intro tag
    cases tag with
    | opening name attributes =>
        simp only [Tag.mapValues, Tag.unlinked, unlinkedAttributes_escape]
    | closing name => rfl
  simp [mapTags, mapTexts, htag]

theorem Fragment.mapTags_prepend (tokens : List Token) (fragment : Fragment) :
    (fragment.prepend tokens).mapTags Tag.unlinked =
      (fragment.mapTags Tag.unlinked).prepend (tokens.map Token.unlinked) := by
  induction tokens with
  | nil => rfl
  | cons token tokens ih =>
      rw [List.map_cons]
      simp only [prepend, List.foldr_cons] at ih ⊢
      rw [← ih]
      cases token <;> rfl

end Html

namespace Markup
open Html (Fragment Tag Token withoutReferenceLinks)

/-! ## Items and bodies without addresses -/

def LineItem.unlinked : LineItem → LineItem
  | .reference id _ => .reference id none
  | item => item

def Block.unlinked : Block → Block
  | .line kind items => .line kind (items.map LineItem.unlinked)
  | .code contents language => .code contents language

/-- A body with every reference as if it led nowhere. -/
def Body.unlinked (body : Body) : Body where
  blocks := body.blocks.map Block.unlinked
  blocks_ne_nil := by simpa using body.blocks_ne_nil

theorem LineItem.unlinked_toTokens (item : LineItem) :
    item.unlinked.toTokens = item.toTokens.map Token.unlinked := by
  cases item with
  | styled style content => cases style <;> rfl
  | plain content => rfl
  | link address =>
      simp [unlinked, toTokens, Token.unlinked, Html.unlinkedAttributes, Html.referenceClass]
  | reference id address => cases address <;> rfl

theorem Block.unlinked_toTokens (block : Block) :
    block.unlinked.toTokens = block.toTokens.map Token.unlinked := by
  cases block with
  | line kind items =>
      have hitems : (items.map LineItem.unlinked).flatMap LineItem.toTokens =
          (items.flatMap LineItem.toTokens).map Token.unlinked := by
        simp only [List.flatMap_map, List.map_flatMap, LineItem.unlinked_toTokens]
      cases kind <;> simp [unlinked, toTokens, LineKind.wrap, hitems, Token.unlinked,
        Html.unlinkedAttributes]
  | code contents language =>
      rcases language with _ | _ | ⟨c, word⟩ <;>
        simp [unlinked, toTokens, languageClass, Token.unlinked, Html.unlinkedAttributes]

theorem Body.unlinked_toTokens (body : Body) :
    body.unlinked.toTokens = body.toTokens.map Token.unlinked := by
  simp only [toTokens, unlinked, List.flatMap_map, List.map_flatMap, Block.unlinked_toTokens]

/-- Without the links of its references, the HTML of a body is the HTML of the body without
addresses. -/
theorem Body.withoutReferenceLinks_html (body : Body) :
    withoutReferenceLinks body.html = some body.unlinked.html := by
  have hfragment : body.fragment.mapTags Tag.unlinked = body.unlinked.fragment := by
    rw [fragment, Fragment.mapTags_prepend, ← body.unlinked_toTokens]
    rfl
  rw [withoutReferenceLinks, body.read_html_eq, Option.map_some, Fragment.mapTags_mapTexts,
    hfragment, ← body.unlinked.html_eq_source]

end Markup

end Imageboard
