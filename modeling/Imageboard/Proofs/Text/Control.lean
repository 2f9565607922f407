import Mathlib.Data.List.TakeWhile
import Imageboard.Proofs.Html.Reading
import Imageboard.Text.Control

/-!
Texts without their control sequences. A sequence ends before any character that cannot stand in
one, so what is left of a text can be told part by part; and no character that is escaped in HTML
can stand in one, so escaping and leaving out go together in either order.
-/
namespace Imageboard.Text
open Html (escape escapeChar escape_cons escape_append escapeChar_cases)

/-! ## Control sequences -/

/-- A control sequence. -/
def IsControl (sequence : List Char) : Prop :=
  ∃ numbers letter, sequence = '\x1b' :: '[' :: (numbers ++ [letter]) ∧
    (∀ c ∈ numbers, isControlNumber c = true) ∧ isAsciiLetter letter = true

theorem isControlNumber_of_isAsciiLetter {c : Char} (h : isAsciiLetter c = true) :
    isControlNumber c = false := by
  have hle : 'A' ≤ c := by
    simp only [isAsciiLetter, Bool.or_eq_true, Bool.and_eq_true, decide_eq_true_eq] at h
    rcases h with h | h
    · exact Char.le_trans (by decide : 'A' ≤ 'a') h.1
    · exact h.1
  have hdigit : ¬ c ≤ '9' := fun hc => absurd (Char.le_trans hle hc) (by decide)
  have hsemicolon : c ≠ ';' := by
    rintro rfl
    exact absurd hle (by decide)
  have hquestion : c ≠ '?' := by
    rintro rfl
    exact absurd hle (by decide)
  simp [isControlNumber, isAsciiDigit, hdigit, hsemicolon, hquestion]

/-- A text starts with a control sequence where one stands in front of the rest. -/
theorem afterControl?_eq_some_iff {s rest : List Char} : afterControl? s = some rest ↔
    ∃ sequence, IsControl sequence ∧ s = sequence ++ rest := by
  constructor
  · intro h
    unfold afterControl? at h
    split at h
    · rename_i found
      have hsplit := List.takeWhile_append_dropWhile (p := isControlNumber) (l := found)
      split at h
      · cases h
      · rename_i letter others hdrop
        rw [Option.ite_none_right_eq_some, Option.some.injEq] at h
        obtain ⟨hletter, rfl⟩ := h
        rw [hdrop] at hsplit
        refine ⟨'\x1b' :: '[' :: (found.takeWhile isControlNumber ++ [letter]),
          ⟨_, letter, rfl, fun c hc => List.mem_takeWhile_imp hc, hletter⟩, ?_⟩
        rw [List.cons_append, List.cons_append, List.append_assoc, List.singleton_append, hsplit]
    · cases h
  · rintro ⟨_, ⟨numbers, letter, rfl, hnumbers, hletter⟩, rfl⟩
    have hdrop : (numbers ++ letter :: rest).dropWhile isControlNumber = letter :: rest := by
      rw [List.dropWhile_append_of_pos hnumbers,
        List.dropWhile_cons_of_neg (by simp [isControlNumber_of_isAsciiLetter hletter])]
    simp [afterControl?, hdrop, hletter]

theorem IsControl.afterControl? {sequence : List Char} (h : IsControl sequence)
    (rest : List Char) : afterControl? (sequence ++ rest) = some rest :=
  afterControl?_eq_some_iff.2 ⟨sequence, h, rfl⟩

theorem afterControl?_of_ne {c : Char} (h : c ≠ '\x1b') (s : List Char) :
    afterControl? (c :: s) = none := by
  unfold afterControl?
  split
  · rename_i heq
    exact absurd (List.cons.inj heq).1 h
  · rfl

/-! ## What is left of a text -/

theorem withoutControls_nil : withoutControls [] = [] := by
  rw [withoutControls]

theorem withoutControls_cons {c : Char} {s : List Char} (h : afterControl? (c :: s) = none) :
    withoutControls (c :: s) = c :: withoutControls s := by
  rw [withoutControls]
  split
  · rename_i rest hsome
    rw [h] at hsome
    cases hsome
  · rfl

theorem withoutControls_append {s : List Char} (h : '\x1b' ∉ s) (t : List Char) :
    withoutControls (s ++ t) = s ++ withoutControls t := by
  induction s with
  | nil => rfl
  | cons c s ih =>
      rw [List.mem_cons, not_or] at h
      rw [List.cons_append, withoutControls_cons (afterControl?_of_ne (Ne.symm h.1) _), ih h.2,
        List.cons_append]

end Imageboard.Text
