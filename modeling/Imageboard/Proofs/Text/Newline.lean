import Mathlib.Data.List.Chain
import Imageboard.Text.Newline

/-!
Texts without empty lines: after its first line, no line of a normalized text is empty.
-/
namespace Imageboard.Text

/-- A text in which no newline follows a newline. -/
def Squeezed (s : List Char) : Prop := s.IsChain fun c d => ¬(c = '\n' ∧ d = '\n')

theorem head?_squeezeNewlines (s : List Char) : (squeezeNewlines s).head? = s.head? := by
  fun_induction squeezeNewlines s with
  | case1 => rfl
  | case2 c rest h ih => rw [ih, h.2, List.head?_cons, h.1]
  | case3 c rest h ih => rfl

theorem squeezed_squeezeNewlines (s : List Char) : Squeezed (squeezeNewlines s) := by
  fun_induction squeezeNewlines s with
  | case1 => exact List.isChain_nil
  | case2 c rest h ih => exact ih
  | case3 c rest h ih =>
      refine List.isChain_cons.2 ⟨fun d hd => ?_, ih⟩
      rw [head?_squeezeNewlines] at hd
      rintro ⟨hc, rfl⟩
      exact h ⟨hc, hd⟩

theorem Squeezed.dropLeadingNewline {s : List Char} (h : Squeezed s) :
    Squeezed (dropLeadingNewline s) := by
  cases s with
  | nil => exact h
  | cons c s =>
      rw [Text.dropLeadingNewline]
      split
      · exact h.tail
      · exact h

theorem Squeezed.closeLine {s : List Char} (h : Squeezed s) : Squeezed (closeLine s) := by
  rw [Text.closeLine]
  split
  · exact h
  · rename_i hlast
    refine List.isChain_append.2 ⟨h, List.isChain_singleton _, fun c hc d _ hcd => ?_⟩
    rw [hcd.1] at hc
    exact hlast hc

theorem squeezed_normalizeNewlines (s : List Char) : Squeezed (normalizeNewlines s) :=
  (squeezed_squeezeNewlines _).dropLeadingNewline.closeLine

theorem Squeezed.mono {s t : List Char} (h : Squeezed t) (hs : s <:+: t) : Squeezed s :=
  List.IsChain.infix h hs

end Imageboard.Text
