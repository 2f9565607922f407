import Imageboard.Html.Token
import Imageboard.Markup.Tree

/-!
The HTML of a post body. Nothing is looked up here: a reference links to the address that its item
carries, and to nothing when it has none.
-/
namespace Imageboard.Markup
open Html (Attribute Token)

/-- A decimal number, with a minus sign when it is negative. -/
def decimalText (n : Int) : List Char :=
  match n with
  | .ofNat n => Nat.toDigits 10 n
  | .negSucc n => '-' :: Nat.toDigits 10 (n + 1)

/-- The opening and closing tag around styled content. -/
def Style.wrap (style : Style) (inner : List Token) : List Token :=
  match style with
  | .strong => .opening "strong" [] :: inner ++ [.closing "strong"]
  | .emphasis => .opening "em" [] :: inner ++ [.closing "em"]
  | .spoiler => .opening "span" [⟨"class", "spoiler".toList⟩] :: inner ++ [.closing "span"]
  | .code => .opening "code" [] :: inner ++ [.closing "code"]

def LineItem.toTokens : LineItem → List Token
  | .styled style content => style.wrap [.text content]
  | .plain content => [.text content]
  | .link address =>
    [.opening "a" [⟨"href", address⟩, ⟨"rel", "nofollow noopener".toList⟩,
      ⟨"target", "_blank".toList⟩], .text address, .closing "a"]
  | .reference id address =>
    let href := match address with
      | none => []
      | some address => [(⟨"href", address⟩ : Attribute)]
    [.opening "a" (⟨"class", "post-ref".toList⟩ :: href), .text (decimalText id), .closing "a"]

/-- The tags around the items of a line. -/
def LineKind.wrap (kind : LineKind) (inner : List Token) : List Token :=
  match kind with
  | .header => .opening "h3" [] :: inner ++ [.closing "h3"]
  | .quote =>
    .opening "blockquote" [] :: .opening "p" [] :: inner ++ [.closing "p", .closing "blockquote"]
  | .paragraph => .opening "p" [] :: inner ++ [.closing "p"]

/-- The class that names the language of code, if there is one and it is not empty. -/
def languageClass (language : Option (List Char)) : List Attribute :=
  match language with
  | none | some [] => []
  | some language => [⟨"class", "language-".toList ++ language⟩]

def Block.toTokens : Block → List Token
  | .line kind items => kind.wrap (items.flatMap LineItem.toTokens)
  | .code contents language =>
    [.opening "pre" [⟨"class", "blockcode".toList⟩], .opening "code" (languageClass language),
      .text contents, .closing "code", .closing "pre"]

def Body.toTokens (body : Body) : List Token := body.blocks.flatMap Block.toTokens

/-- The HTML fragment of a body. -/
def Body.html (body : Body) : List Char := Html.write body.toTokens

end Imageboard.Markup
