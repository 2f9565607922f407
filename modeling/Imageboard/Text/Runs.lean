/-!
Character classes written as runs: the increasing list of the code points at which membership
changes. The first number opens the first run, the next one closes it, and so on.
-/
namespace Imageboard.Text

/-- A code point belongs to the class when an odd number of changes lie at or before it. -/
def inRuns : List Nat → Nat → Bool
  | [], _ => false
  | change :: rest, n => if n < change then false else !inRuns rest n

@[simp] theorem inRuns_nil (n : Nat) : inRuns [] n = false := rfl

theorem inRuns_eq_false_of_lt {change n : Nat} (rest : List Nat) (h : n < change) :
    inRuns (change :: rest) n = false := by
  simp [inRuns, h]

end Imageboard.Text
