import Mathlib.Data.List.TakeWhile
import Imageboard.Command.Report
import Imageboard.Proofs.Keeping

/-!
Scalars that are read by their tags. Whatever is wrong with one is foreseen, unless its tag takes it
for what it does not write; and what looks like a truth value, a number or a date writes one.
-/
namespace Imageboard.Yaml

section
variable {reason : Prop} {α β : Type}

end

/-! ## Reading by the tag -/

section
variable {reason : Prop}

end

/-! ## What a look says of the text -/

namespace Implicit

end Implicit

end Imageboard.Yaml
