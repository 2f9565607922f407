import Imageboard.Proofs.Pattern.Rule
import Imageboard.Proofs.Yaml.Value

/-!
Loading settings from all sources at once. Layers are put over values of any kind, so each layer is
shown to keep whether the value has names; what is not foreseen is then found in one of the sources.
-/
namespace Imageboard.Settings
open Yaml (Scalar Value)

/-- Entries that all have names. -/
def HasNames : Value → Prop
  | .mapping entries => ∀ entry ∈ entries, isName entry.1 = true
  | _ => False

instance : DecidablePred HasNames
  | .mapping entries => inferInstanceAs (Decidable (∀ entry ∈ entries, isName entry.1 = true))
  | .scalar _ | .list _ | .set _ => .isFalse id

theorem hasNames_put (entries : List (Scalar × Value)) (name : List Char) (value : Value) :
    HasNames (.mapping (put entries name value)) ↔ HasNames (.mapping entries) := by
  unfold HasNames put Yaml.Graph.putEntry
  dsimp only
  split
  · rw [List.forall_mem_map]
    refine forall₂_congr fun old _ => ?_
    split <;> rfl
  · rw [List.forall_mem_append, List.forall_mem_singleton]
    exact and_iff_left rfl

theorem hasNames_foldl_put (overrides : List (List Char × Value))
    (entries : List (Scalar × Value)) :
    HasNames (.mapping (overrides.foldl (fun entries (name, value) => put entries name value)
      entries)) ↔ HasNames (.mapping entries) := by
  induction overrides generalizing entries with
  | nil => rfl
  | cons override overrides ih =>
      rw [List.foldl_cons, ih]
      exact hasNames_put _ _ _

section
variable {sources : Sources} {value layered : Value}

end

/-! ## The whole of it -/

section
variable {sources : Sources} {settings : Settings}

end

end Imageboard.Settings
