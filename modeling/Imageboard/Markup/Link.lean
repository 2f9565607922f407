import Imageboard.Markup.Reader
import Imageboard.Text.Alphanumeric

/-!
Links: a web scheme and the address characters after it, less the sentence punctuation at their
end.
-/
namespace Imageboard.Markup

/-- The schemes that open a link. -/
def linkSchemes : List (List Char) := ["http://".toList, "https://".toList]

/-- Whether a link starts here. -/
def opensLink (s : List Char) : Bool := linkSchemes.any (opensWith · s)

/-- The signs that may stand inside an address, besides letters and numbers. -/
def linkSigns : List Char := "-._~:/?#[]@!$&'()*+,;%=".toList

/-- The signs that may end an address, besides letters and numbers. -/
def linkFinalSigns : List Char := "#$-_+*'".toList

def isLinkChar (c : Char) : Bool := Text.isAlphanumeric c || linkSigns.contains c

def isLinkFinalChar (c : Char) : Bool := Text.isAlphanumeric c || linkFinalSigns.contains c

/-- The address characters after a scheme: all of a run but its last character, and that one too
if it may end an address. -/
def readAddress : List Char → List Char × List Char
  | [] => ([], [])
  | c :: rest =>
    let goesOn := match rest with
      | [] => false
      | next :: _ => isLinkChar c && isLinkChar next
    if goesOn then
      let (address, after) := readAddress rest
      (c :: address, after)
    else if isLinkFinalChar c then ([c], rest)
    else ([], c :: rest)

/-- A link, with its scheme. -/
def readLink : Reader (List Char) := fun s =>
  linkSchemes.findSome? fun scheme =>
    (dropMarker? scheme s).map fun rest =>
      let (address, after) := readAddress rest
      (scheme ++ address, after)

theorem readAddress_append (s : List Char) : (readAddress s).1 ++ (readAddress s).2 = s := by
  fun_induction readAddress s <;> grind

theorem length_readAddress_le (s : List Char) : (readAddress s).2.length ≤ s.length := by
  have := congrArg List.length (readAddress_append s)
  grind

theorem readLink_progresses : readLink.Progresses := by
  intro s address rest hs
  obtain ⟨scheme, hm, hs⟩ := List.exists_of_findSome?_eq_some hs
  obtain ⟨opened, ho, he⟩ := Option.map_eq_some_iff.1 hs
  have h1 := length_of_dropMarker? ho
  have h2 := length_readAddress_le opened
  have h3 : 0 < scheme.length := by
    simp only [linkSchemes, List.mem_cons, List.not_mem_nil, or_false] at hm
    rcases hm with rfl | rfl <;> decide
  grind

end Imageboard.Markup
