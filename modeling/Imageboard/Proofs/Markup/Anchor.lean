import Imageboard.Proofs.Markup.Unlinked
import Imageboard.Proofs.Markup.Asking
import Imageboard.Proofs.Text.Control

/-!
The anchors of references. A reference that leads somewhere is written as an anchor, which stands as
a whole in the HTML of the body, and still does when control sequences are left out, only that its
address has none then.
-/
namespace Imageboard

namespace Html

end Html

namespace Markup

/-- The anchor of a reference to a post at an address. -/
def anchor (id : Nat) (address : List Char) : List Char :=
  "<a class=\"post-ref\" href=\"".toList ++ Html.escape address ++ "\">".toList ++
    Nat.toDigits 10 id ++ "</a>".toList

end Markup

end Imageboard
