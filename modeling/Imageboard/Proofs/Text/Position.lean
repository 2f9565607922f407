import Mathlib.Data.List.TakeWhile
import Imageboard.Text.Position

/-!
Lines and columns. The line of a position starts at the front of the text or behind a newline, and
no newline stands between its start and the position. So line and column together say which position
is meant, also past the end of the text.
-/
namespace Imageboard.Text

/-- A position at which a line starts. -/
def StartsLine (s : List Char) (position : Nat) : Prop :=
  position = 0 ∨ s[position - 1]? = some '\n'

/-- The lines before the last one, each with its newline. -/
def beforeLastLine (s : List Char) : List Char := (s.reverse.dropWhile (· != '\n')).reverse

theorem beforeLastLine_append (s : List Char) : beforeLastLine s ++ lastLine s = s := by
  rw [beforeLastLine, lastLine, ← List.reverse_append, List.takeWhile_append_dropWhile,
    List.reverse_reverse]

theorem newline_notMem_lastLine (s : List Char) : '\n' ∉ lastLine s := by
  rw [lastLine, List.mem_reverse]
  intro h
  simpa using List.mem_takeWhile_imp h

theorem beforeLastLine_cases (s : List Char) :
    beforeLastLine s = [] ∨ ∃ lines, beforeLastLine s = lines ++ ['\n'] := by
  rw [beforeLastLine]
  cases hdropped : s.reverse.dropWhile (· != '\n') with
  | nil => exact .inl rfl
  | cons c rest =>
      have hc := List.head_dropWhile_not (l := s.reverse) (· != '\n') (by simp [hdropped])
      simp only [hdropped, List.head_cons, bne_eq_false_iff_eq] at hc
      exact .inr ⟨rest.reverse, by rw [hc, List.reverse_cons]⟩

/-! ## The start of a line -/

section
variable (s : List Char) (position : Nat)

theorem lineStart_eq : lineStart s position = (beforeLastLine (s.take position)).length := by
  have hlength := congrArg List.length (beforeLastLine_append (s.take position))
  rw [List.length_append] at hlength
  rw [lineStart]
  omega

theorem lineStart_le_length : lineStart s position ≤ (s.take position).length := Nat.sub_le _ _

theorem lineStart_le : lineStart s position ≤ position :=
  (lineStart_le_length s position).trans (List.length_take_le _ _)

theorem take_lineStart : s.take (lineStart s position) = beforeLastLine (s.take position) := by
  have hlines := beforeLastLine_append (s.take position)
  calc s.take (lineStart s position)
      = (s.take position).take (lineStart s position) := by
        rw [List.take_take, Nat.min_eq_left (lineStart_le s position)]
    _ = (beforeLastLine (s.take position) ++ lastLine (s.take position)).take
          (beforeLastLine (s.take position)).length := by rw [hlines, lineStart_eq]
    _ = beforeLastLine (s.take position) := List.take_left

theorem extract_lineStart :
    s.extract (lineStart s position) position = lastLine (s.take position) := by
  have hlines := beforeLastLine_append (s.take position)
  calc s.extract (lineStart s position) position
      = (s.take position).drop (lineStart s position) := by
        rw [List.extract_eq_take_drop, List.drop_take]
    _ = (beforeLastLine (s.take position) ++ lastLine (s.take position)).drop
          (beforeLastLine (s.take position)).length := by rw [hlines, lineStart_eq]
    _ = lastLine (s.take position) := List.drop_left

theorem startsLine_lineStart : StartsLine s (lineStart s position) := by
  have htake := take_lineStart s position
  have hlength := lineStart_eq s position
  rcases beforeLastLine_cases (s.take position) with hbefore | ⟨lines, hbefore⟩
  · rw [hbefore] at hlength
    exact .inl hlength
  · rw [hbefore, List.length_append, List.length_singleton] at hlength
    rw [hbefore, hlength] at htake
    refine .inr ?_
    rw [hlength, Nat.add_sub_cancel, ← List.getElem?_take_of_lt (Nat.lt_succ_self _), htake,
      List.getElem?_concat_length]

/-- No newline stands on a line before the position. -/
theorem newline_notMem_line : '\n' ∉ s.extract (lineStart s position) position := by
  rw [extract_lineStart]
  exact newline_notMem_lastLine _

/-- The number of a line counts the newlines before its start. -/
theorem count_take_lineStart : (s.take (lineStart s position)).count '\n' + 1 =
    lineAt s position := by
  have hnone := List.count_eq_zero.2 (newline_notMem_lastLine (s.take position))
  have hcount := congrArg (List.count '\n') (beforeLastLine_append (s.take position))
  rw [List.count_append, hnone, Nat.add_zero] at hcount
  rw [take_lineStart, hcount, lineAt]

theorem sub_columnAt : position - (columnAt s position - 1) = lineStart s position := by
  have hle := lineStart_le s position
  rw [columnAt, Nat.add_sub_cancel]
  omega

end

/-! ## Positions from lines and columns -/

section
variable {s : List Char} {p q : Nat}

theorem count_take_lt_of_startsLine (h : StartsLine s q) (hlt : p < q) :
    (s.take p).count '\n' < (s.take q).count '\n' := by
  obtain ⟨q, rfl⟩ : ∃ k, q = k + 1 := ⟨q - 1, by omega⟩
  have hnewline : s[q]? = some '\n' := h.resolve_left (Nat.succ_ne_zero q)
  have hle : (s.take p).count '\n' ≤ (s.take q).count '\n' :=
    (List.take_sublist_take_left (Nat.le_of_lt_succ hlt)).count_le '\n'
  rw [List.take_add_one, hnewline, Option.toList_some, List.count_append, List.count_singleton_self]
  exact Nat.lt_succ_of_le hle

/-- A line is known by the newlines before its start. -/
theorem eq_of_startsLine (hp : StartsLine s p) (hq : StartsLine s q)
    (h : (s.take p).count '\n' = (s.take q).count '\n') : p = q := by
  rcases Nat.lt_trichotomy p q with hlt | heq | hlt
  · exact absurd h (count_take_lt_of_startsLine hq hlt).ne
  · exact heq
  · exact absurd h (count_take_lt_of_startsLine hp hlt).ne'

theorem position_determined (hline : lineAt s p = lineAt s q)
    (hcolumn : columnAt s p = columnAt s q) : p = q := by
  have hp := count_take_lineStart s p
  have hq := count_take_lineStart s q
  have hstart : lineStart s p = lineStart s q :=
    eq_of_startsLine (startsLine_lineStart s p) (startsLine_lineStart s q) (by omega)
  have hple := lineStart_le s p
  have hqle := lineStart_le s q
  rw [columnAt, columnAt] at hcolumn
  omega

/-- The first column is where a line starts. -/
theorem columnAt_of_startsLine (h : StartsLine s p) : columnAt s p = 1 := by
  have hle := lineStart_le s p
  rcases Nat.eq_or_lt_of_le hle with heq | hlt
  · rw [columnAt, heq, Nat.sub_self]
  · obtain ⟨k, rfl⟩ : ∃ k, p = k + 1 := ⟨p - 1, by omega⟩
    have hnewline : s[k]? = some '\n' := h.resolve_left (Nat.succ_ne_zero k)
    -- A line that started earlier would hold the newline in front of the position.
    have hmem : '\n' ∈ s.extract (lineStart s (k + 1)) (k + 1) := by
      rw [List.extract_eq_take_drop, List.mem_iff_getElem?]
      refine ⟨k - lineStart s (k + 1), ?_⟩
      rw [List.getElem?_take_of_lt (by omega), List.getElem?_drop,
        Nat.add_sub_cancel' (Nat.le_of_lt_succ hlt), hnewline]
    exact absurd hmem (newline_notMem_line s (k + 1))

theorem lineAt_of_notMem (h : '\n' ∉ s.take p) : lineAt s p = 1 := by
  rw [lineAt, List.count_eq_zero.2 h]

end

end Imageboard.Text
