import Imageboard.Text.Alphanumeric
import Imageboard.Text.Digit

/-!
Control sequences of terminals, which colour a text or move the cursor. They are left out where a
text is not shown on a terminal.
-/
namespace Imageboard.Text

/-- Characters of the numbers in a control sequence. -/
def isControlNumber (c : Char) : Bool := c == ';' || c == '?' || isAsciiDigit c

/-- The text behind the control sequence that a text starts with, if it does: a mark and a bracket,
numbers, and a letter. -/
def afterControl? : List Char → Option (List Char)
  | '\x1b' :: '[' :: rest =>
    match rest.dropWhile isControlNumber with
    | [] => none
    | c :: rest => if isAsciiLetter c then some rest else none
  | _ => none

theorem length_afterControl? {s rest : List Char} (h : afterControl? s = some rest) :
    rest.length < s.length := by
  unfold afterControl? at h
  split at h
  · rename_i numbers
    have hle := (List.dropWhile_suffix isControlNumber (l := numbers)).length_le
    split at h
    · cases h
    · rename_i c found hdrop
      rw [Option.ite_none_right_eq_some, Option.some.injEq] at h
      obtain ⟨-, rfl⟩ := h
      rw [hdrop, List.length_cons] at hle
      simp only [List.length_cons]
      omega
  · cases h

/-- A text without its control sequences. -/
def withoutControls (s : List Char) : List Char :=
  match s with
  | [] => []
  | c :: others =>
    match _h : afterControl? (c :: others) with
    | some rest => withoutControls rest
    | none => c :: withoutControls others
termination_by s.length
decreasing_by
  · exact length_afterControl? ‹_›
  · exact Nat.lt_succ_self _

end Imageboard.Text
