/-!
Splitting a text at separators.
-/
namespace Imageboard.Text

/-- The parts of a text before, between and after separators. There is always at least one part. -/
def splitAt (isSeparator : Char → Bool) : List Char → List (List Char)
  | [] => [[]]
  | c :: rest =>
    if isSeparator c then [] :: splitAt isSeparator rest
    else
      match splitAt isSeparator rest with
      | [] => [[c]]
      | part :: others => (c :: part) :: others

theorem splitAt_ne_nil (isSeparator : Char → Bool) (s : List Char) :
    splitAt isSeparator s ≠ [] := by
  induction s with
  | nil => simp [splitAt]
  | cons c rest ih =>
    rw [splitAt]
    split
    · simp
    · split <;> simp

end Imageboard.Text
