import Imageboard.Proofs.Markup.Shape
import Imageboard.Proofs.Markup.Source
import Imageboard.Proofs.Markup.WellFormed

/-!
The tree of a body, recovered from its HTML. Every tag tells what it opens, and the text in front of
the next tag is plain text unless there is none; so two bodies with the same HTML are the same, if
plain text is never empty nor next to plain text.
-/
namespace Imageboard.Markup
open Html (Attribute Fragment Tag)
open MonadAttach (CanReturn)

/-! ## Bodies that can be recovered -/

/-- An item that leaves a trace in the HTML by which it is known: plain text that is not empty, and
the number of a post, which is never negative. -/
def LineItem.Legible : LineItem → Prop
  | .plain content => content ≠ []
  | .reference id _ => 0 ≤ id
  | _ => True

/-- Whether two items are not both plain text. -/
def LineItem.Apart : LineItem → LineItem → Prop
  | .plain _, .plain _ => False
  | _, _ => True

/-- A block whose plain texts are apart, or code whose language, if any, has a name. -/
def Block.Legible : Block → Prop
  | .line _ items => (∀ item ∈ items, item.Legible) ∧ items.IsChain LineItem.Apart
  | .code _ language => language ≠ some []

def Body.Legible (body : Body) : Prop := ∀ block ∈ body.blocks, block.Legible

/-! ## The decoder -/

/-- The item that a tag opens, given the text behind the tag. -/
def itemOf? (content : List Char) : Tag → Option LineItem
  | .opening "strong" _ => some (.styled .strong content)
  | .opening "em" _ => some (.styled .emphasis content)
  | .opening "span" _ => some (.styled .spoiler content)
  | .opening "code" _ => some (.styled .code content)
  | .opening "a" [_] => some (.reference (Text.decimalValue content) none)
  | .opening "a" [_, href] => some (.reference (Text.decimalValue content) (some href.value))
  | .opening "a" _ => some (.link content)
  | _ => none

/-- Items behind a text, which is one of them unless it is empty. -/
def plainBefore (text : List Char) (items : List LineItem) : List LineItem :=
  if text = [] then items else .plain text :: items

/-- The items up to the first tag that opens none, and the tags from there on. -/
def itemsOf : List (Tag × List Char) → List LineItem × List (Tag × List Char)
  | (tag, content) :: (closing, after) :: rest =>
    match itemOf? content tag with
    | some item => (item :: plainBefore after (itemsOf rest).1, (itemsOf rest).2)
    | none => ([], (tag, content) :: (closing, after) :: rest)
  | tagged => ([], tagged)

/-- The language that the class of a code tag names. -/
def languageOf : List Attribute → Option (List Char)
  | [] => none
  | named :: _ => some (named.value.drop "language-".length)

/-- A line that starts with a text, and the tags behind the given number of closing tags. -/
def lineOf (kind : LineKind) (closings : Nat) (text : List Char)
    (tagged : List (Tag × List Char)) : Block × List (Tag × List Char) :=
  (.line kind (plainBefore text (itemsOf tagged).1), (itemsOf tagged).2.drop closings)

/-- The block at the front of some tags, and the tags behind it. -/
def blockOf? : List (Tag × List Char) → Option (Block × List (Tag × List Char))
  | (.opening "h3" _, text) :: rest => some (lineOf .header 1 text rest)
  | (.opening "blockquote" _, _) :: (_, text) :: rest => some (lineOf .quote 2 text rest)
  | (.opening "p" _, text) :: rest => some (lineOf .paragraph 1 text rest)
  | (.opening "pre" _, _) :: (named, contents) :: rest =>
    some (.code contents (languageOf named.attributes), rest.drop 2)
  | _ => none

theorem length_itemsOf_le (tagged : List (Tag × List Char)) :
    (itemsOf tagged).2.length ≤ tagged.length := by
  fun_induction itemsOf tagged with
  | case1 tag content closing after rest item _ ih =>
      simp only [List.length_cons]
      omega
  | case2 => exact Nat.le_refl _
  | case3 => exact Nat.le_refl _

theorem length_lineOf_le (kind : LineKind) (closings : Nat) (text : List Char)
    (tagged : List (Tag × List Char)) :
    (lineOf kind closings text tagged).2.length ≤ tagged.length := by
  rw [lineOf, List.length_drop]
  exact Nat.le_trans (Nat.sub_le _ _) (length_itemsOf_le tagged)

theorem length_blockOf?_lt {tagged rest : List (Tag × List Char)} {block : Block}
    (h : blockOf? tagged = some (block, rest)) : rest.length < tagged.length := by
  unfold blockOf? at h
  split at h
  · obtain rfl : _ = rest := congrArg Prod.snd (Option.some.inj h)
    exact Nat.lt_succ_of_le (length_lineOf_le _ _ _ _)
  · obtain rfl : _ = rest := congrArg Prod.snd (Option.some.inj h)
    exact Nat.lt_succ_of_lt (Nat.lt_succ_of_le (length_lineOf_le _ _ _ _))
  · obtain rfl : _ = rest := congrArg Prod.snd (Option.some.inj h)
    exact Nat.lt_succ_of_le (length_lineOf_le _ _ _ _)
  · obtain rfl : _ = rest := congrArg Prod.snd (Option.some.inj h)
    simp only [List.length_cons, List.length_drop]
    omega
  · cases h

/-- The blocks of a list of tags, if it consists of blocks. -/
def blocksOf? (tagged : List (Tag × List Char)) : Option (List Block) :=
  match h : blockOf? tagged with
  | none => if tagged = [] then some [] else none
  | some (block, rest) =>
    have : rest.length < tagged.length := length_blockOf?_lt h
    (blocksOf? rest).map (block :: ·)
termination_by tagged.length

/-- The body that an HTML fragment was written for. -/
def Body.ofHtml? (s : List Char) : Option Body := do
  let found ← Html.read s
  let blocks ← blocksOf? (found.mapTexts Html.unescape).tagged
  Body.ofBlocks? blocks

/-! ## Items -/

/-- An item with tags is written as a pair of them around a text, from which it is recovered. -/
theorem LineItem.exists_tags {item : LineItem} (h : item.Legible)
    (hplain : ∀ content, item ≠ .plain content) (f : Fragment) : ∃ tag content closing,
    f.prepend item.toTokens = ⟨[], (tag, content) :: (closing, f.leading) :: f.tagged⟩ ∧
      itemOf? content tag = some item := by
  cases item with
  | styled style content =>
      cases style with
      | strong => exact ⟨_, _, _, f.prepend_pair .., rfl⟩
      | emphasis => exact ⟨_, _, _, f.prepend_pair .., rfl⟩
      | spoiler => exact ⟨_, _, _, f.prepend_pair .., rfl⟩
      | code => exact ⟨_, _, _, f.prepend_pair .., rfl⟩
  | plain content => exact absurd rfl (hplain content)
  | link address => exact ⟨_, _, _, f.prepend_pair .., rfl⟩
  | reference id address =>
      have hid := decimalValue_of_nonneg h
      cases address with
      | none =>
          refine ⟨_, _, _, f.prepend_pair .., ?_⟩
          rw [itemOf?, hid]
      | some address =>
          refine ⟨_, _, _, f.prepend_pair .., ?_⟩
          rw [itemOf?, hid]

theorem itemsOf_cons {item : LineItem} {content : List Char} {tag : Tag}
    (h : itemOf? content tag = some item) (closing : Tag) (after : List Char)
    (rest : List (Tag × List Char)) :
    itemsOf ((tag, content) :: (closing, after) :: rest) =
      (item :: plainBefore after (itemsOf rest).1, (itemsOf rest).2) := by
  rw [itemsOf, h]

/-- What is plain in front of items that start with a tag is nothing. -/
theorem eq_nil_of_plainBefore {text : List Char} {items others : List LineItem}
    (h : plainBefore text items = others)
    (hothers : ∀ content, others.head? ≠ some (.plain content)) : text = [] := by
  by_contra hne
  rw [plainBefore, if_neg hne] at h
  exact hothers text (h ▸ rfl)

/-- The items of a line are recovered from what is written for them, up to the tag that closes the
line. -/
theorem itemsOf_prepend {items : List LineItem} (hitems : ∀ item ∈ items, item.Legible)
    (hchain : items.IsChain LineItem.Apart) {f : Fragment} (hleading : f.leading = [])
    (hclosed : itemsOf f.tagged = ([], f.tagged)) :
    plainBefore (f.prepend (items.flatMap LineItem.toTokens)).leading
        (itemsOf (f.prepend (items.flatMap LineItem.toTokens)).tagged).1 = items ∧
      (itemsOf (f.prepend (items.flatMap LineItem.toTokens)).tagged).2 = f.tagged := by
  induction items with
  | nil =>
      rw [List.flatMap_nil, Fragment.prepend_nil, hleading, hclosed]
      exact ⟨rfl, rfl⟩
  | cons item items ih =>
      rw [List.forall_mem_cons] at hitems
      obtain ⟨hitem, hitems⟩ := hitems
      obtain ⟨hmore, hrest⟩ := ih hitems hchain.tail
      rw [List.flatMap_cons, Fragment.prepend_append]
      generalize f.prepend (items.flatMap LineItem.toTokens) = later at hmore hrest ⊢
      by_cases hplain : ∃ content, item = .plain content
      · obtain ⟨content, rfl⟩ := hplain
        -- A text in front of the later items would be one of them, next to this one.
        have hnil : later.leading = [] := by
          apply eq_nil_of_plainBefore hmore
          intro other hhead
          exact (List.isChain_cons.1 hchain).1 _ hhead
        rw [hnil, plainBefore, if_pos rfl] at hmore
        change plainBefore (content ++ later.leading) (itemsOf later.tagged).1 = _ ∧ _
        rw [hnil, List.append_nil, hmore, plainBefore, if_neg hitem]
        exact ⟨rfl, hrest⟩
      · rw [not_exists] at hplain
        obtain ⟨tag, content, closing, hprepend, hrecovered⟩ :=
          LineItem.exists_tags hitem hplain later
        rw [hprepend, itemsOf_cons hrecovered]
        exact ⟨congrArg (List.cons item) hmore, hrest⟩

/-! ## Blocks -/

/-- The tag that closes a line opens no item. -/
theorem itemsOf_withTag_closing (name : String) (f : Fragment) :
    itemsOf (f.withTag (.closing name)).tagged = ([], (f.withTag (.closing name)).tagged) := by
  obtain ⟨leading, tagged⟩ := f
  cases tagged <;> rfl

theorem languageOf_languageClass {language : Option (List Char)} (h : language ≠ some []) :
    languageOf (languageClass language) = language := by
  rcases language with _ | _ | ⟨c, word⟩
  · rfl
  · exact absurd rfl h
  · rfl

theorem lineOf_prepend (kind : LineKind) (closings : Nat) {items : List LineItem}
    (hitems : ∀ item ∈ items, item.Legible) (hchain : items.IsChain LineItem.Apart) {f : Fragment}
    (hleading : f.leading = []) (hclosed : itemsOf f.tagged = ([], f.tagged)) :
    lineOf kind closings (f.prepend (items.flatMap LineItem.toTokens)).leading
        (f.prepend (items.flatMap LineItem.toTokens)).tagged =
      (.line kind items, f.tagged.drop closings) := by
  obtain ⟨hread, hrest⟩ := itemsOf_prepend hitems hchain hleading hclosed
  rw [lineOf, hread, hrest]

/-- The block of a list of tags is the one that was written in front of them. -/
theorem blockOf?_prepend {block : Block} (h : block.Legible) (f : Fragment) :
    blockOf? (f.prepend block.toTokens).tagged = some (block, f.tagged) := by
  cases block with
  | line kind items =>
      obtain ⟨hitems, hchain⟩ := h
      cases kind with
      | header =>
          have hwrap : f.prepend (Block.line .header items).toTokens =
              ((f.withTag (.closing "h3")).prepend (items.flatMap LineItem.toTokens)).withTag
                (.opening "h3" []) :=
            Fragment.prepend_append (.opening "h3" [] :: _) [.closing "h3"] f
          rw [hwrap, Fragment.withTag, blockOf?, lineOf_prepend .header 1 hitems hchain rfl
            (itemsOf_withTag_closing "h3" f)]
          rfl
      | quote =>
          have hwrap : f.prepend (Block.line .quote items).toTokens =
              ((((f.withTag (.closing "blockquote")).withTag (.closing "p")).prepend
                (items.flatMap LineItem.toTokens)).withTag (.opening "p" [])).withTag
                  (.opening "blockquote" []) :=
            Fragment.prepend_append (.opening "blockquote" [] :: .opening "p" [] :: _)
              [.closing "p", .closing "blockquote"] f
          rw [hwrap, Fragment.withTag, Fragment.withTag, blockOf?, lineOf_prepend .quote 2 hitems
            hchain rfl (itemsOf_withTag_closing "p" (f.withTag (.closing "blockquote")))]
          rfl
      | paragraph =>
          have hwrap : f.prepend (Block.line .paragraph items).toTokens =
              ((f.withTag (.closing "p")).prepend (items.flatMap LineItem.toTokens)).withTag
                (.opening "p" []) :=
            Fragment.prepend_append (.opening "p" [] :: _) [.closing "p"] f
          rw [hwrap, Fragment.withTag, blockOf?, lineOf_prepend .paragraph 1 hitems hchain rfl
            (itemsOf_withTag_closing "p" f)]
          rfl
  | code contents language =>
      have hblock : blockOf? (f.prepend (Block.code contents language).toTokens).tagged =
          some (.code (contents ++ []) (languageOf (languageClass language)), f.tagged) := rfl
      rw [hblock, List.append_nil, languageOf_languageClass h]

theorem blocksOf?_of_some {tagged rest : List (Tag × List Char)} {block : Block}
    (h : blockOf? tagged = some (block, rest)) :
    blocksOf? tagged = (blocksOf? rest).map (block :: ·) := by
  rw [blocksOf?]
  split
  · rename_i hs; rw [h] at hs; cases hs
  · rename_i hs
    rw [h] at hs
    obtain ⟨rfl, rfl⟩ := Prod.mk.inj (Option.some.inj hs)
    rfl

theorem blocksOf?_prepend {blocks : List Block} (h : ∀ block ∈ blocks, block.Legible) :
    blocksOf? (Fragment.prepend (blocks.flatMap Block.toTokens) ⟨[], []⟩).tagged =
      some blocks := by
  induction blocks with
  | nil => rw [List.flatMap_nil, Fragment.prepend_nil, blocksOf?]; rfl
  | cons block blocks ih =>
      rw [List.forall_mem_cons] at h
      rw [List.flatMap_cons, Fragment.prepend_append, blocksOf?_of_some (blockOf?_prepend h.1 _),
        ih h.2]
      rfl

/-! ## Bodies -/

theorem Body.ofHtml?_html {body : Body} (h : body.Legible) :
    Body.ofHtml? body.html = some body := by
  have hblocks : blocksOf? body.fragment.tagged = some body.blocks := blocksOf?_prepend h
  rw [ofHtml?, body.read_html_eq]
  simp only [Option.bind_eq_bind, Option.bind_some, Fragment.unescape_mapTexts_escape, hblocks]
  exact (Body.ofBlocks?_eq_some_iff body.blocks body).2 rfl

theorem LineItem.WellFormed.legible {item : LineItem} (h : item.WellFormed) : item.Legible := by
  cases item with
  | plain content => exact h.1
  | reference id address => exact h
  | styled style content => trivial
  | link address => trivial

theorem LineItem.MayAdjoin.apart {item next : LineItem} (h : item.MayAdjoin next) :
    item.Apart next := by
  cases item with
  | plain content => cases next <;> exact h
  | reference id address => trivial
  | styled style content => trivial
  | link address => trivial

/-- What is parsed can be recovered. -/
theorem Block.WellFormed.legible {block : Block} (h : block.WellFormed) : block.Legible := by
  cases block with
  | line kind items =>
      obtain ⟨-, hitems, hchain⟩ := h
      exact ⟨fun item hitem => (hitems item hitem).legible,
        hchain.imp fun _ _ hadjoin => hadjoin.apart⟩
  | code contents language =>
      obtain ⟨-, -, -, hlanguage⟩ := h
      rintro rfl
      exact (hlanguage [] rfl).1 rfl

variable {m : Type → Type} [Monad m] [LawfulMonad m] [MonadAttach m] [LawfulMonadAttach m]

/-- The HTML of a body determines it: it is recovered from its HTML, so no other body has the same.
This holds of every body that has been parsed. -/
theorem Body.html_determines :
    (∀ body : Body, body.Legible → Body.ofHtml? body.html = some body) ∧
    (∀ a b : Body, a.Legible → b.Legible → a.html = b.html → a = b) ∧
    ∀ (lookup : Lookup m) s body, CanReturn (parseBlocks lookup s) body → body.Legible := by
  refine ⟨fun body h => Body.ofHtml?_html h, fun a b ha hb h => ?_, fun lookup s body h => ?_⟩
  · have hread := Body.ofHtml?_html ha
    rw [h, Body.ofHtml?_html hb] at hread
    exact (Option.some.inj hread).symm
  · intro block hblock
    exact (wellFormed_of_becomes (becomes_of_parseBlocks h).2 block hblock).legible

/-- A body whose texts look like entities, tags and the ends of values. -/
def tangledBody : Body where
  blocks := [
    .line .quote [.plain "&lt;</p>".toList, .reference 12 (some "/\"/&amp;".toList),
      .link "\">".toList, .styled .code [], .plain ['<', 'a', '>']],
    .line .paragraph [],
    .code "</code></pre><p>".toList (some ['"'])]
  blocks_ne_nil := List.cons_ne_nil _ _

theorem Body.html_determines_of_tangledBody :
    tangledBody.Legible ∧
    Body.ofHtml? tangledBody.html = some tangledBody ∧
    ∃ body, CanReturn (parseBlocks (fun id => do modify (id :: ·); return none :
        Lookup (StateM (List Int))) "*a*b>>1\n".toList) body ∧
      body.blocks = [.line .paragraph [.styled .emphasis ['a'], .plain ['b'],
        .reference 1 none]] ∧ body.Legible := by
  have hlegible : tangledBody.Legible := by
    simp [Legible, tangledBody, Block.Legible, LineItem.Legible, LineItem.Apart]
  refine ⟨hlegible, (html_determines (m := StateM (List Int))).1 _ hlegible, ?_⟩
  exact (exists_body_of_run [] (by decide +kernel)).imp fun _ h =>
    ⟨h.1, h.2, html_determines.2.2 _ _ _ h.1⟩

end Imageboard.Markup
