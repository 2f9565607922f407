import Imageboard.Proofs.Command.Trouble
import Imageboard.Proofs.Settings.Load

/-!
Bad settings. All commands load the settings before anything else, so what is wrong with them is the
trouble of each call, and it is reported if it is foreseen.
-/
namespace Imageboard.Command

section
variable {s : Surroundings} {d : Databases} {text : Option (List Char)}

end

end Imageboard.Command
