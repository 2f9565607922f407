import Imageboard.Proofs.Yaml.Graph
import Imageboard.Proofs.Yaml.Scalar

/-!
Values of YAML texts. Whatever is wrong with a value is foreseen, unless a tag takes a text for what
it does not write, which takes somebody to write a tag, or a code is too large to count as one.
-/
namespace Imageboard.Yaml
namespace Graph

/-- A part of a collection with a fault that is foreseen, if it has one. -/
def Part.Fits : Part → Prop
  | .fault failure => failure.isForeseen = true
  | _ => True

section
variable (g : Graph) {reason : Prop}

end

end Graph

/-! ## Failures to read -/

end Imageboard.Yaml
