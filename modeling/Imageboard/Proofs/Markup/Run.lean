/-!
Runs of characters with a property, and where they stop.
-/
namespace Imageboard.Markup

/-- A text at whose front no character has the property. -/
def StopsRun (p : Char → Bool) (s : List Char) : Prop := ∀ c ∈ s.head?, p c = false

theorem stopsRun_nil (p : Char → Bool) : StopsRun p [] := by
  intro c hc
  cases hc

theorem stopsRun_cons {p : Char → Bool} {c : Char} (h : p c = false) (s : List Char) :
    StopsRun p (c :: s) := by
  intro d hd
  rw [← Option.some.inj hd]
  exact h

theorem takeWhile_append_of_stopsRun {p : Char → Bool} {run rest : List Char}
    (hrun : ∀ c ∈ run, p c = true) (hrest : StopsRun p rest) :
    (run ++ rest).takeWhile p = run := by
  rw [List.takeWhile_append_of_pos hrun]
  cases rest with
  | nil => simp
  | cons c rest => simp [hrest c rfl]

theorem dropWhile_append_of_stopsRun {p : Char → Bool} {run rest : List Char}
    (hrun : ∀ c ∈ run, p c = true) (hrest : StopsRun p rest) :
    (run ++ rest).dropWhile p = rest := by
  rw [List.dropWhile_append_of_pos hrun]
  cases rest with
  | nil => rfl
  | cons c rest => simp [hrest c rfl]

end Imageboard.Markup
